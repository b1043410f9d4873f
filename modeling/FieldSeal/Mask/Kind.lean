/-!
# Kinds of sensitive values

The catalog of value shapes that the library knows: for each a name, a validation pattern and the
number of characters that a mask leaves visible at either end.
-/

namespace FieldSeal

inductive SensitiveKind where
  | bankCard
  | email
  | citizenId
  | mobilePhone
  | telephone
  | chineseName
  | englishName
  | custom
  deriving DecidableEq, Repr

namespace SensitiveKind

def all : List SensitiveKind :=
  [.bankCard, .email, .citizenId, .mobilePhone, .telephone, .chineseName, .englishName, .custom]

def name : SensitiveKind → String
  | .bankCard => "bank_card"
  | .email => "email"
  | .citizenId => "citizen_id"
  | .mobilePhone => "mobile_phone"
  | .telephone => "telephone"
  | .chineseName => "chinese_name"
  | .englishName => "english_name"
  | .custom => "custom"

/-- The kind with exactly this name. -/
def ofName? (name : String) : Option SensitiveKind := all.find? (·.name == name)

/-- The validation pattern of the kind. -/
def pattern : SensitiveKind → String
  | .bankCard => "^[1-9]\\d\x7b12,18\x7d$"
  | .email =>
    "^(?i)[a-z0-9!#$%&'*+/=?^_`\x7b|\x7d~-]+(?:\\.[a-z0-9!#$%&'*+/=?^_`\x7b|\x7d~-]+)*@" ++
      "(?:[a-z0-9](?:[a-z0-9-]*[a-z0-9])?\\.)+[a-z0-9](?:[a-z0-9-]*[a-z0-9])?$"
  | .citizenId =>
    "(^[1-9]\\d\x7b5\x7d\\d\x7b2\x7d((0[1-9])|(10|11|12))(([0-2][1-9])|10|20|30|31)" ++
      "\\d\x7b2\x7d[0-9Xx]$)|" ++
      "(^[1-9]\\d\x7b5\x7d(18|19|20)\\d\x7b2\x7d((0[1-9])|(1[0-2]))(([0-2][1-9])|10|20|30|31)" ++
      "\\d\x7b3\x7d[0-9Xx]$)"
  | .mobilePhone => "^1[3-9]\\d\x7b9\x7d$"
  | .telephone => "^(0\\d\x7b2,3\x7d[-\\s]?)?\\d\x7b7,8\x7d([-\\s]?\\d\x7b1,6\x7d)?$"
  | .chineseName => "^[\\x\x7b4e00\x7d-\\x\x7b9fa5\x7d]+(·[\\x\x7b4e00\x7d-\\x\x7b9fa5\x7d]+)*$"
  | .englishName =>
    "^[A-Za-z][A-Za-z'\\-.]\x7b1,19\x7d(?:\\s+[A-Za-z][A-Za-z'\\-.]\x7b1,19\x7d)*$"
  | .custom => "^[\\p\x7bL\x7d\\p\x7bN\x7d]*$"

/-- The number of leading characters left visible. -/
def keepStart : SensitiveKind → Nat
  | .bankCard | .citizenId => 6
  | .email | .mobilePhone | .telephone => 3
  | .chineseName | .englishName | .custom => 1

/-- The number of trailing characters left visible. -/
def keepEnd : SensitiveKind → Nat
  | .chineseName | .englishName | .custom => 1
  | _ => 4

@[simp] theorem ofName?_name (k : SensitiveKind) : ofName? k.name = some k := by
  cases k <;> decide

end SensitiveKind

end FieldSeal

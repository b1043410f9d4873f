import FieldSeal.Key.Kind

/-!
# Events

What the library reports while it works. An event names suites and kinds of keys but holds no
plaintext, no mask and no key.
-/

namespace FieldSeal

inductive Level where
  | debug
  | info
  | warn
  deriving DecidableEq, Repr

def Level.name : Level → String
  | .debug => "DEBUG"
  | .info => "INFO"
  | .warn => "WARN"

inductive Event where
  | encrypted (suite : Suite)
  | decrypted (suite : Suite)
  | failedAuthentication (suite : Suite)
  | registered (suite : Suite)
  | generatedKey (kind : KeyKind)
  /-- Keys that are lost when the program ends come into use. -/
  | usingGeneratedKeys
  /-- The settings name no key at all. -/
  | noKeysSet
  | protectFailed (reason : String)
  | revealFailed (reason : String)
  deriving DecidableEq, Repr

namespace Event

def level : Event → Level
  | encrypted _ | decrypted _ => .debug
  | registered _ | generatedKey _ => .info
  | failedAuthentication _ | usingGeneratedKeys | noKeysSet | protectFailed _ | revealFailed _ =>
    .warn

def message : Event → String
  | encrypted _ => "encrypted value"
  | decrypted _ => "decrypted value"
  | failedAuthentication _ => "envelope failed authentication"
  | registered _ => "registered encryption strategy"
  | generatedKey _ => "generated key material"
  | usingGeneratedKeys =>
    "using process-local generated keys; data encrypted now cannot be decrypted after restart"
  | noKeysSet => "no key variables set; falling back to generated keys"
  | protectFailed _ => "protect failed"
  | revealFailed _ => "reveal failed"

/-- The named values that go with the message. -/
def fields : Event → List (String × String)
  | encrypted s | decrypted s | failedAuthentication s | registered s => [("mode", s.code)]
  | generatedKey kind => [("kind", kind.id)]
  | usingGeneratedKeys | noKeysSet => []
  | protectFailed reason | revealFailed reason => [("error", reason)]

/-- The event as one line. -/
def line (e : Event) : String :=
  e.fields.foldl (fun text (name, value) => text ++ " " ++ name ++ "=" ++ value)
    (e.level.name ++ " " ++ e.message)

end Event

end FieldSeal

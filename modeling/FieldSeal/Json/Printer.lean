import FieldSeal.Json.Number

/-!
# Writing JSON texts

Without blanks. Strings escape quotes, backslashes and control characters and nothing else.
-/

namespace FieldSeal.Json

/-- A character within quotes. -/
def escapeChar (c : Char) : List Char :=
  match c with
  | '"' => ['\\', '"']
  | '\\' => ['\\', '\\']
  | '\x08' => ['\\', 'b']
  | '\x0c' => ['\\', 'f']
  | '\n' => ['\\', 'n']
  | '\r' => ['\\', 'r']
  | '\t' => ['\\', 't']
  | c =>
    if c.toNat < 32 then
      ['\\', 'u', '0', '0', Hex.digit (c.toNat / 16), Hex.digit (c.toNat % 16)]
    else [c]

/-- A text in quotes. -/
def quote (text : String) : String :=
  String.ofList ('"' :: text.toList.flatMap escapeChar ++ ['"'])

/-- Texts with a separator between them. -/
def joinWith (separator : String) : List String → String
  | [] => ""
  | [t] => t
  | t :: rest => t ++ separator ++ joinWith separator rest

/-- An array of texts that are JSON already. -/
def writeArray (items : List String) : String := "[" ++ joinWith "," items ++ "]"

/-- An object of named texts that are JSON already, in the given order. -/
def writeObject (members : List (String × String)) : String :=
  "\x7b" ++ joinWith "," (members.map fun (name, text) => quote name ++ ":" ++ text) ++ "\x7d"

mutual

/-- The text of a document. -/
def write : Json → String
  | null => "null"
  | bool b => if b then "true" else "false"
  | number n => n.text
  | string s => quote s
  | array items => writeArray (writeItems items)
  | object members => writeObject (writeMembers members)

def writeItems : List Json → List String
  | [] => []
  | item :: rest => item.write :: writeItems rest

def writeMembers : List (String × Json) → List (String × String)
  | [] => []
  | (name, value) :: rest => (name, value.write) :: writeMembers rest

end

theorem writeItems_eq_map (items : List Json) : writeItems items = items.map write := by
  induction items with
  | nil => simp [writeItems]
  | cons item rest ih => simp [writeItems, ih]

theorem writeMembers_eq_map (members : List (String × Json)) :
    writeMembers members = members.map fun m => (m.1, m.2.write) := by
  induction members with
  | nil => simp [writeMembers]
  | cons m rest ih => simp [writeMembers, ih]

end FieldSeal.Json

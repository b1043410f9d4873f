import FieldSeal.Text.Split

/-!
# Paths into documents

**Text form.** Points separate the steps. A step is the name of a member; `[]` behind a name, or
alone, goes on to all items of an array. Every text is a path of one step at least, since names may
be empty and may hold any other character.
-/

namespace FieldSeal

/-- A step into a document. -/
inductive PathStep where
  /-- To the member of an object with this name. -/
  | key (name : String)
  /-- To every item of an array. -/
  | item
  deriving DecidableEq, Repr

/-- The steps from the top of a document. -/
abbrev Path := List PathStep

namespace Path

/-- The name in front of a final `[]`, if there is one. -/
def beforeBrackets? (part : List Char) : Option (List Char) :=
  match part.reverse with
  | ']' :: '[' :: name => some name.reverse
  | _ => none

/-- The steps of one part of the text. Brackets alone are no step to a member. -/
def ofPart (part : List Char) : Path :=
  match beforeBrackets? part with
  | none => [.key (String.ofList part)]
  | some [] => [.item]
  | some name => [.key (String.ofList name), .item]

/-- The path that a text denotes. -/
def parse (text : String) : Path := (Text.splitChars '.' text.toList).flatMap ofPart

/-- The text of a path, with the steps to items as parts of their own. -/
def text (path : Path) : String :=
  ".".intercalate <| path.map fun
    | .key name => name
    | .item => "[]"

end Path

end FieldSeal

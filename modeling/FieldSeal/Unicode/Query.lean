import FieldSeal.Unicode.Age
import FieldSeal.Unicode.Script
import FieldSeal.Unicode.Segment

/-!
# Sets by name

Patterns name sets of characters by a property, or by a property and one of its values. Names are
compared loosely: case, blanks, hyphens, underscores and a leading `is` do not count.

A name alone is tried as a binary property, then as a general category, then as a script.
-/

namespace FieldSeal.Unicode

/-- What a pattern asks for. -/
inductive Query where
  | name (name : String)
  | value (property value : String)
  deriving DecidableEq, Repr

namespace Query

/-- The characters of a name that count: ASCII, without separators, in lowercase. -/
def significant (cs : List Char) : List Char :=
  (cs.filter fun c => c.toNat < 128 && c != ' ' && c != '_' && c != '-').map Char.toLower

/-- The form in which names are compared. The leading `is` is kept where only a `c` would be left,
since that is a name of its own. -/
def canonical (name : String) : String :=
  match name.toList with
  | a :: b :: rest =>
    if a.toLower = 'i' ∧ b.toLower = 's' then
      let rest := significant rest
      String.ofList (if rest = ['c'] then ['i', 's', 'c'] else rest)
    else String.ofList (significant (a :: b :: rest))
  | short => String.ofList (significant short)

/-- The set that a name alone denotes. -/
def ofName? (name : String) : Option CodeSet :=
  match Property.ofName? name with
  | some s => some s
  | none =>
    match Category.ofName? name with
    | some s => some s
    | none => Script.ofName? name

/-- The set that a property and its value denote. -/
def ofValue? : String → String → Option CodeSet
  | "gc", v | "generalcategory", v => Category.ofName? v
  | "sc", v | "script", v => Script.ofName? v
  | "scx", v | "scriptextensions", v => Script.extendedOfName? v
  | "age", v => Age.ofName? v
  | "gcb", v | "graphemeclusterbreak", v => Segment.grapheme? v
  | "wb", v | "wordbreak", v => Segment.word? v
  | "sb", v | "sentencebreak", v => Segment.sentence? v
  | _, _ => none

/-- The set asked for, if there is one. -/
def set? : Query → Option CodeSet
  | name n => ofName? (canonical n)
  | value p v => ofValue? (canonical p) (canonical v)

end Query

end FieldSeal.Unicode

import FieldSeal.Json.Number

/-!
# Reading JSON texts

**Values.** `value` reads one value of any form. Two kinds of values are read to their end but are
no documents: those with half a surrogate pair or a number beyond all bounds in them, and those
nested more deeply than allowed. What is skipped may be such a value.

**Faults.** A text that is not JSON is told apart from JSON of another form than the one asked for;
the fault that is met first in the text counts.

A reader is given the number of levels that it may still enter and takes tokens from the front.
-/

namespace FieldSeal.Json

inductive Fault where
  /-- The text is not JSON, or holds a value that no document can hold. -/
  | text
  /-- The text is JSON of another form. -/
  | shape
  deriving DecidableEq, Repr

abbrev Reader (α : Type) := (levels : Nat) → List Token → Except Fault (α × List Token)

/-- The number of arrays and objects that may stand within each other. -/
def levelLimit : Nat := 127

/-! ## Values of any form -/

mutual

/-- One value and the rest. The inner `none` is a value that is no document. -/
def value : (steps : Nat) → (levels : Nat) → List Token → Option (Option Json × List Token)
  | steps + 1, levels, ts =>
    match ts with
    | .null :: rest => some (some .null, rest)
    | .bool b :: rest => some (some (.bool b), rest)
    | .number l :: rest => some (l.number?.map .number, rest)
    | .string s :: rest => some (s.map .string, rest)
    | .openArray :: .closeArray :: rest =>
      some (if levels = 0 then none else some (.array []), rest)
    | .openArray :: rest =>
      match values steps (levels - 1) rest with
      | some (items, rest) => some (if levels = 0 then none else items.map .array, rest)
      | none => none
    | .openObject :: .closeObject :: rest =>
      some (if levels = 0 then none else some (.object []), rest)
    | .openObject :: rest =>
      match members steps (levels - 1) rest with
      | some (named, rest) => some (if levels = 0 then none else named.map ofMembers, rest)
      | none => none
    | _ => none
  | 0, _, _ => none

/-- The values up to the end of an array, one at least. -/
def values : (steps : Nat) → (levels : Nat) → List Token →
    Option (Option (List Json) × List Token)
  | steps + 1, levels, ts =>
    match value steps levels ts with
    | some (item, .closeArray :: rest) => some (item.map fun x => [x], rest)
    | some (item, .comma :: rest) =>
      match values steps levels rest with
      | some (items, rest) => some (item.bind fun x => items.map fun xs => x :: xs, rest)
      | none => none
    | _ => none
  | 0, _, _ => none

/-- The members up to the end of an object, one at least. -/
def members : (steps : Nat) → (levels : Nat) → List Token →
    Option (Option (List (String × Json)) × List Token)
  | steps + 1, levels, .string name :: .colon :: ts =>
    match value steps levels ts with
    | some (item, .closeObject :: rest) =>
      some (name.bind fun n => item.map fun x => [(n, x)], rest)
    | some (item, .comma :: rest) =>
      match members steps levels rest with
      | some (named, rest) =>
        some (name.bind fun n => item.bind fun x => named.map fun xs => (n, x) :: xs, rest)
      | none => none
    | _ => none
  | _, _, _ => none

end

/-- More steps than a value of these tokens takes. -/
def stepBound (ts : List Token) : Nat := 2 * ts.length + 2

namespace Reader

def document : Reader Json := fun levels ts =>
  match value (stepBound ts) levels ts with
  | some (some j, rest) => .ok (j, rest)
  | _ => .error .text

/-- Any value, which is passed over. -/
def skip : Reader Unit := fun levels ts =>
  match value (stepBound ts) levels ts with
  | some (_, rest) => .ok ((), rest)
  | none => .error .text

/-! ## Values of one form -/

/-- The fault of meeting these tokens in place of a value of another form. -/
def mismatch : List Token → Fault
  | .number l :: _ => if l.number?.isSome then .shape else .text
  | .string s :: _ => if s.isSome then .shape else .text
  | .null :: _ | .bool _ :: _ | .openArray :: _ | .openObject :: _ => .shape
  | _ => .text

def string : Reader String := fun _ ts =>
  match ts with
  | .string (some s) :: rest => .ok (s, rest)
  | ts => .error (mismatch ts)

def boolean : Reader Bool := fun _ ts =>
  match ts with
  | .bool b :: rest => .ok (b, rest)
  | ts => .error (mismatch ts)

/-- An integer of 64 bits without a sign. -/
def natural : Reader Nat := fun _ ts =>
  match ts with
  | .number l :: rest =>
    match l.number? with
    | some (.int n) => if 0 ≤ n then .ok (n.toNat, rest) else .error .shape
    | some (.fraction _) => .error .shape
    | none => .error .text
  | ts => .error (mismatch ts)

/-- A value or `null`. -/
def optional {α : Type} (read : Reader α) : Reader (Option α) := fun levels ts =>
  match ts with
  | .null :: rest => .ok (none, rest)
  | ts => (read levels ts).map fun (x, rest) => (some x, rest)

/-- The elements up to the end of an array, one at least. -/
def elements {α : Type} (read : Reader α) : (steps : Nat) → Reader (List α)
  | 0, _, _ => .error .text
  | steps + 1, levels, ts =>
    match read levels ts with
    | .error fault => .error fault
    | .ok (x, .closeArray :: rest) => .ok ([x], rest)
    | .ok (_, .comma :: .closeArray :: _) => .error .text
    | .ok (x, .comma :: rest) =>
      (elements read steps levels rest).map fun (xs, rest) => (x :: xs, rest)
    | .ok _ => .error .text

def list {α : Type} (read : Reader α) : Reader (List α)
  | 0, .openArray :: _ => .error .text
  | _ + 1, .openArray :: .closeArray :: rest => .ok ([], rest)
  | levels + 1, .openArray :: rest => elements read rest.length levels rest
  | _, ts => .error (mismatch ts)

end Reader

/-! ## Whole texts -/

/-- A value at the start of a text; what follows it does not matter. -/
def readStart {α : Type} (read : Reader α) (text : String) : Except Fault α :=
  (read levelLimit (tokens text)).map (·.1)

/-- A value that is all of a text. -/
def readAll {α : Type} (read : Reader α) (text : String) : Except Fault α :=
  match read levelLimit (tokens text) with
  | .error fault => .error fault
  | .ok (x, []) => .ok x
  | .ok (_, _ :: _) => .error .text

end FieldSeal.Json

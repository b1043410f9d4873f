import FieldSeal.Json.Reader

/-!
# Records in JSON texts

**Form.** A record is an object whose members are its fields, in any order and with members of
other names passed over, or an array of its fields in their order, of which the last ones may be
left out if they may be absent.

**Faults.** A field that stands twice or is missing is a fault of the shape. It counts when the
second one or the end of the record is met.
-/

namespace FieldSeal.Json

/-- A field of a record of which some parts are read. -/
structure Field (π : Type) where
  name : String
  /-- The field was read before. -/
  isSet : π → Bool
  /-- Read the value of the field into the record. -/
  read : π → Reader π

/-- The field whose value, once it is read, is kept in a part of the record. -/
def Field.of {π β : Type} (name : String) (part : π → Option β) (store : π → Option β → π)
    (read : Reader β) : Field π where
  name := name
  isSet parts := (part parts).isSome
  read parts levels ts := (read levels ts).map fun (x, rest) => (store parts (some x), rest)

/-- How a record is read. -/
structure Record (π α : Type) where
  /-- The fields, in the order of the array form. -/
  fields : List (Field π)
  /-- The record of which nothing is read. -/
  start : π
  /-- The record, if nothing is missing. -/
  finish? : π → Option α

namespace Record

variable {π α : Type} (r : Record π α)

/-- The record behind its closing token. -/
def close (parts : π) (rest : List Token) : Except Fault (α × List Token) :=
  match r.finish? parts with
  | some record => .ok (record, rest)
  | none => .error .shape

/-- The value of a named member. -/
def member (name : String) (parts : π) (levels : Nat) (ts : List Token) :
    Except Fault (π × List Token) :=
  let behindColon (read : Reader π) : Except Fault (π × List Token) :=
    match ts with
    | .colon :: ts => read levels ts
    | _ => .error .text
  match r.fields.find? (·.name == name) with
  | none => behindColon fun levels ts => (Reader.skip levels ts).map fun (_, rest) => (parts, rest)
  | some field => if field.isSet parts then .error .shape else behindColon (field.read parts)

/-- The members up to the end of the object, one at least. -/
def readMembers : (steps : Nat) → π → (levels : Nat) → List Token →
    Except Fault (α × List Token)
  | steps + 1, parts, levels, .string (some name) :: ts =>
    match r.member name parts levels ts with
    | .error fault => .error fault
    | .ok (parts, .closeObject :: rest) => r.close parts rest
    | .ok (parts, .comma :: rest) => readMembers steps parts levels rest
    | .ok _ => .error .text
  | _, _, _, _ => .error .text

/-- The fields up to the end of the array, one at least. -/
def readFields : List (Field π) → π → (levels : Nat) → List Token → Except Fault (α × List Token)
  | [], _, _, _ => .error .text
  | field :: fields, parts, levels, ts =>
    match field.read parts levels ts with
    | .error fault => .error fault
    | .ok (parts, .closeArray :: rest) => r.close parts rest
    | .ok (_, .comma :: .closeArray :: _) => .error .text
    | .ok (parts, .comma :: rest) => readFields fields parts levels rest
    | .ok _ => .error .text

def read : Reader α
  | 0, .openObject :: _ | 0, .openArray :: _ => .error .text
  | _ + 1, .openObject :: .closeObject :: rest => r.close r.start rest
  | levels + 1, .openObject :: ts => r.readMembers ts.length r.start levels ts
  | _ + 1, .openArray :: .closeArray :: rest => r.close r.start rest
  | levels + 1, .openArray :: ts => r.readFields r.fields r.start levels ts
  | _, ts => .error (Reader.mismatch ts)

end Record

end FieldSeal.Json

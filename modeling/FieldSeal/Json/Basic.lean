import FieldSeal.Decimal.Binary64

/-!
# JSON documents

Values as they are exchanged. The members of an object are kept in ascending order of their names,
one for each name.
-/

namespace FieldSeal

namespace Json

/-- A number: an integer of 64 bits, with or without a sign, or a binary fraction. -/
inductive Number where
  | int (n : Int)
  | fraction (x : Binary64)
  deriving DecidableEq, Repr

end Json

inductive Json where
  | null
  | bool (b : Bool)
  | number (n : Json.Number)
  | string (s : String)
  | array (items : List Json)
  | object (members : List (String × Json))
  deriving Repr, BEq, Inhabited

namespace Json

/-- Put a member in its place, instead of one of the same name. -/
def insertMember (name : String) (value : Json) : List (String × Json) → List (String × Json)
  | [] => [(name, value)]
  | (n, v) :: rest =>
    if name < n then (name, value) :: (n, v) :: rest
    else if name = n then (name, value) :: rest
    else (n, v) :: insertMember name value rest

/-- The object with the given members; the last of several with one name counts. -/
def ofMembers (members : List (String × Json)) : Json :=
  object (members.foldl (fun ms (name, value) => insertMember name value ms) [])

theorem lookup_insertMember_self (name : String) (value : Json) (members : List (String × Json)) :
    (insertMember name value members).lookup name = some value := by
  induction members with
  | nil => simp [insertMember]
  | cons m rest ih =>
    obtain ⟨n, v⟩ := m
    unfold insertMember
    split
    · simp
    · split
      · simp
      · next h => rw [List.lookup_cons, beq_false_of_ne h]; exact ih

def ofNat (n : Nat) : Json := number (.int n)

def strings (texts : List String) : Json := array (texts.map string)

/-- The member of an object with a name. -/
def get? (j : Json) (name : String) : Option Json :=
  match j with
  | object members => members.lookup name
  | _ => none

end Json

end FieldSeal

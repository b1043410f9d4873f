/-!
# Block padding

A byte string is filled up to whole blocks of sixteen bytes by one to sixteen bytes that each hold
their number. Removal is strict: it refuses whatever padding does not produce.
-/

namespace FieldSeal.Padding

/-- The bytes that fill up a byte string of length `n`. -/
def fill (n : Nat) : List UInt8 := List.replicate (16 - n % 16) (UInt8.ofNat (16 - n % 16))

def pad (bytes : List UInt8) : List UInt8 := bytes ++ fill bytes.length

/-- The byte string without its padding. -/
def unpad? (bytes : List UInt8) : Option (List UInt8) :=
  match bytes.getLast? with
  | none => none
  | some last =>
    let count := last.toNat
    let start := bytes.length - count
    if 0 < count ∧ count ≤ 16 ∧ count ≤ bytes.length ∧ (bytes.drop start).all (· == last) then
      some (bytes.take start)
    else none

end FieldSeal.Padding

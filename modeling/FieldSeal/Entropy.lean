/-!
# Entropy

Random bytes come from one unbounded stream and are taken in order. The number of bytes already
taken is all the state there is, so two draws never overlap.
-/

namespace FieldSeal

/-- A byte stream and the number of its bytes that were taken. -/
structure Entropy where
  byte : Nat → UInt8
  taken : Nat := 0

namespace Entropy

/-- The `n` bytes from position `start` on. -/
def slice (e : Entropy) (start n : Nat) : List UInt8 := (List.range' start n).map e.byte

/-- Take the next `n` bytes. -/
def draw (n : Nat) (e : Entropy) : List UInt8 × Entropy :=
  (e.slice e.taken n, { e with taken := e.taken + n })

/-- The stream that repeats `bytes` for ever. An empty list stands for all bytes in ascending
order. -/
def cycle (bytes : List UInt8) : Entropy :=
  let period := bytes.toArray
  if period.isEmpty then { byte := fun i => UInt8.ofNat i }
  else { byte := fun i => period.getD (i % period.size) 0 }

@[simp] theorem length_slice (e : Entropy) (start n : Nat) : (e.slice start n).length = n := by
  simp [slice]

@[simp] theorem length_draw (n : Nat) (e : Entropy) : (e.draw n).1.length = n := by simp [draw]

@[simp] theorem taken_draw (n : Nat) (e : Entropy) : (e.draw n).2.taken = e.taken + n := rfl

@[simp] theorem byte_draw (n : Nat) (e : Entropy) : (e.draw n).2.byte = e.byte := rfl

end Entropy

end FieldSeal

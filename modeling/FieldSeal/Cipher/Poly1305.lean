/-!
# The Poly1305 authenticator

The message, cut into chunks of sixteen bytes, gives the coefficients of a polynomial that is
evaluated at a secret point modulo the prime `2 ^ 130 - 5`.
-/

namespace FieldSeal.Poly1305

def prime : Nat := Nat.pow 2 130 - 5

/-- The number that bytes denote, the least significant first. -/
def number (bytes : List UInt8) : Nat := bytes.foldr (fun b n => b.toNat + 256 * n) 0

/-- The lowest `count` bytes of a number, the least significant first. -/
def bytes (count n : Nat) : List UInt8 :=
  (List.range count).map fun i => UInt8.ofNat (n / Nat.pow 256 i)

/-- The evaluation point of a key: 22 of its bits are cleared. -/
def point (key : List UInt8) : Nat :=
  number (key.take 16) &&& 0x0ffffffc0ffffffc0ffffffc0fffffff

/-- One step of the evaluation. -/
def absorb (point sum : Nat) (chunk : List UInt8) : Nat :=
  (sum + number chunk + Nat.pow 256 chunk.length) * point % prime

/-- Sixteen bytes at a time; the last chunk may be shorter. -/
def chunks (message : List UInt8) : List (List UInt8) :=
  let m := message.toArray
  (List.range ((m.size + 15) / 16)).map fun i => (m.extract (16 * i) (16 * i + 16)).toList

/-- The tag of a message under a key of 32 bytes: sixteen bytes. -/
def tag (key message : List UInt8) : List UInt8 :=
  bytes 16 ((chunks message).foldl (absorb (point key)) 0 + number (key.drop 16))

@[simp] theorem length_tag (key message : List UInt8) : (tag key message).length = 16 := by
  simp [tag, bytes]

end FieldSeal.Poly1305

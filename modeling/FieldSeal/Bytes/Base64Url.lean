/-!
# Base64 with the URL-safe alphabet

Three bytes become four symbols of six bits. Writing never pads. Reading takes a text with any
part of its padding, from none to all, and refuses a last symbol whose unused bits are not zero, so
a byte string has exactly one spelling up to padding.
-/

namespace FieldSeal.Base64Url

/-- The symbol of a six-bit value; anything above counts as the last one. -/
def symbol (n : Nat) : Char :=
  if n < 26 then Char.ofNat (65 + n)
  else if n < 52 then Char.ofNat (71 + n)
  else if n < 62 then Char.ofNat (n - 4)
  else if n = 62 then '-'
  else '_'

/-- The value of a symbol. -/
def value? (c : Char) : Option Nat :=
  if 'A' ≤ c ∧ c ≤ 'Z' then some (c.toNat - 65)
  else if 'a' ≤ c ∧ c ≤ 'z' then some (c.toNat - 71)
  else if '0' ≤ c ∧ c ≤ '9' then some (c.toNat + 4)
  else if c = '-' then some 62
  else if c = '_' then some 63
  else none

/-! ## Bytes and six-bit values -/

/-- The six-bit values of a byte string, the last one filled up with zero bits. -/
def sextets : List UInt8 → List Nat
  | [] => []
  | [a] => [a.toNat / 4, a.toNat % 4 * 16]
  | [a, b] => [a.toNat / 4, a.toNat % 4 * 16 + b.toNat / 16, b.toNat % 16 * 4]
  | a :: b :: c :: rest =>
    a.toNat / 4 :: (a.toNat % 4 * 16 + b.toNat / 16) :: (b.toNat % 16 * 4 + c.toNat / 64)
      :: c.toNat % 64 :: sextets rest

/-- The bytes of six-bit values; refuses a single left-over value and unused bits that are set. -/
def octets? : List Nat → Option (List UInt8)
  | [] => some []
  | [_] => none
  | [p, q] => if q % 16 = 0 then some [UInt8.ofNat (p * 4 + q / 16)] else none
  | [p, q, r] =>
    if r % 4 = 0 then
      some [UInt8.ofNat (p * 4 + q / 16), UInt8.ofNat (q % 16 * 16 + r / 4)]
    else none
  | p :: q :: r :: s :: rest =>
    (octets? rest).map fun bytes =>
      UInt8.ofNat (p * 4 + q / 16) :: UInt8.ofNat (q % 16 * 16 + r / 4)
        :: UInt8.ofNat (r % 4 * 64 + s) :: bytes

/-! ## Text -/

def encodeChars (bytes : List UInt8) : List Char := (sextets bytes).map symbol

/-- The unpadded text of a byte string. -/
def encode (bytes : List UInt8) : String := String.ofList (encodeChars bytes)

/-- The number of padding characters that complete `n` symbols to a whole group. -/
def room (n : Nat) : Nat :=
  match n % 4 with
  | 2 => 2
  | 3 => 1
  | _ => 0

/-- The bytes of symbols followed by at most as many `=` as complete the last group. -/
def decodeChars? (text : List Char) : Option (List UInt8) :=
  let symbols := text.takeWhile (· ≠ '=')
  let padding := text.dropWhile (· ≠ '=')
  if padding.all (· = '=') ∧ padding.length ≤ room symbols.length then
    (symbols.mapM value?).bind octets?
  else none

/-- The byte string that a text denotes. -/
def decode? (text : String) : Option (List UInt8) := decodeChars? text.toList

end FieldSeal.Base64Url

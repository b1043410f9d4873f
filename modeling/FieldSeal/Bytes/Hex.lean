/-!
# Hexadecimal text

Two digits per byte, the high half first. Writing uses lowercase digits; reading takes either case.
-/

namespace FieldSeal.Hex

/-- The digit of a half byte; anything above fifteen counts as fifteen. -/
def digit (n : Nat) : Char :=
  if n < 10 then Char.ofNat (48 + n) else Char.ofNat (87 + min n 15)

/-- The value of a digit. -/
def value? (c : Char) : Option Nat :=
  if '0' ≤ c ∧ c ≤ '9' then some (c.toNat - 48)
  else if 'a' ≤ c ∧ c ≤ 'f' then some (c.toNat - 87)
  else if 'A' ≤ c ∧ c ≤ 'F' then some (c.toNat - 55)
  else none

def encodeChars (bytes : List UInt8) : List Char :=
  bytes.flatMap fun b => [digit (b.toNat / 16), digit (b.toNat % 16)]

/-- The text of a byte string. -/
def encode (bytes : List UInt8) : String := String.ofList (encodeChars bytes)

/-- Refuses an odd number of digits and characters that are no digits. -/
def decodeChars? : List Char → Option (List UInt8)
  | [] => some []
  | [_] => none
  | a :: b :: rest => do
    let high ← value? a
    let low ← value? b
    let bytes ← decodeChars? rest
    return UInt8.ofNat (16 * high + low) :: bytes

/-- The byte string that a text denotes. -/
def decode? (text : String) : Option (List UInt8) := decodeChars? text.toList

/-- The number that a run of digits denotes, most significant digit first. -/
def number? (digits : List Char) : Option Nat :=
  if digits.isEmpty then none
  else digits.foldlM (fun n c => (value? c).map (16 * n + ·)) 0

end FieldSeal.Hex

import FieldSeal.Decimal.Shortest
import FieldSeal.Json.Basic
import FieldSeal.Json.Token

/-!
# Numbers of JSON texts

**Reading.** A literal without fraction and exponent is an integer if it fits into 64 bits; minus
zero is not one. Any other literal is a binary fraction: as many leading digits as fit into 64 bits
are scaled by one power of ten, each of the two steps rounded.

**Writing.** The fewest digits that read back, positional from `0.00001` up to sixteen digits in
front of the point and with an exponent otherwise.
-/

namespace FieldSeal.Json

/-- The largest integer without a sign. -/
def wordMax : Nat := Nat.pow 2 64 - 1

def digitValue (c : Char) : Nat := c.toNat - 48

def numberOf (digits : List Char) : Nat := digits.foldl (fun n c => 10 * n + digitValue c) 0

/-! ## Reading fractions -/

/-- Leading digits and the power of ten by which they are to be multiplied. -/
structure Significand where
  value : Nat
  exponent : Int

/-- Digits in front of the point: those that no longer fit are dropped, and so are all after
them. -/
def wholeDigits : Significand → List Char → Significand
  | s, [] => s
  | s, c :: rest =>
    let next := 10 * s.value + digitValue c
    if next ≤ wordMax then wholeDigits { s with value := next } rest
    else { s with exponent := s.exponent + (rest.length + 1) }

/-- Digits behind the point: those that no longer fit are dropped, and so are all after them. -/
def fractionDigits : Significand → List Char → Significand
  | s, [] => s
  | s, c :: rest =>
    let next := 10 * s.value + digitValue c
    if next ≤ wordMax then fractionDigits ⟨next, s.exponent - 1⟩ rest else s

/-- The power of ten, rounded. -/
def powerOfTen (n : Nat) : Binary64 := (Binary64.ofNat? (Nat.pow 10 n)).getD Binary64.zero

/-- A number scaled by a power of ten: up to `10 ^ 308` in one step, division by more in several.
`none` when the result is too large. -/
def scale : (steps : Nat) → Binary64 → Int → Option Binary64
  | 0, _, _ => some Binary64.zero
  | steps + 1, x, e =>
    if e.natAbs ≤ 308 then
      if 0 ≤ e then x.mul? (powerOfTen e.toNat) else x.div? (powerOfTen e.natAbs)
    else if x.mantissa = 0 then some x
    else if 0 ≤ e then none
    else (x.div? (powerOfTen 308)).bind fun x => scale steps x (e + 308)

/-- The largest exponent that is read as a number. -/
def exponentMax : Nat := Nat.pow 2 31 - 1

/-- The fraction that a literal denotes; `none` when it is too large. -/
def Literal.fraction? (l : Literal) : Option Binary64 :=
  let s := fractionDigits (wholeDigits ⟨0, 0⟩ l.whole) l.fraction
  let magnitude :=
    match l.exponent with
    | none => (Binary64.ofNat? s.value).bind fun x => scale 8 x s.exponent
    | some (negative, digits) =>
      let e := numberOf digits
      if e > exponentMax then
        if s.value = 0 ∨ negative then some Binary64.zero else none
      else
        let e := s.exponent + (if negative then -(e : Int) else e)
        (Binary64.ofNat? s.value).bind fun x => scale 8 x e
  magnitude.map fun x => { x with negative := l.negative }

/-- The number that a literal denotes; `none` when it is too large. -/
def Literal.number? (l : Literal) : Option Number :=
  let n := numberOf l.whole
  if l.fraction.isEmpty ∧ l.exponent.isNone ∧ n ≤ (if l.negative then Nat.pow 2 63 else wordMax) ∧
      ¬(l.negative ∧ n = 0) then
    some (.int (if l.negative then -(n : Int) else n))
  else l.fraction?.map .fraction

/-! ## Writing -/

/-- How fractions are written. -/
structure FractionFormat where
  /-- The least and the greatest place of the point, counted from the first digit, for which no
  exponent is written. -/
  leastPoint : Int
  greatestPoint : Int
  /-- What stands between the digits and the exponent. -/
  positiveMark : String
  negativeMark : String

/-- From `0.00001` to sixteen digits in front of the point; exponents have a sign. -/
def fractionFormat : FractionFormat := ⟨-4, 16, "e+", "e-"⟩

/-- The text of a magnitude that is not zero. -/
def FractionFormat.write (f : FractionFormat) (d : Decimal.Scaled) : String :=
  let digits := toString d.digits
  let count := digits.length
  let point : Int := count + d.exponent
  let zeros (n : Nat) : String := String.ofList (List.replicate n '0')
  if f.leastPoint ≤ point ∧ point ≤ f.greatestPoint then
    if point ≤ 0 then "0." ++ zeros (-point).toNat ++ digits
    else if count ≤ point.toNat then digits ++ zeros (point.toNat - count) ++ ".0"
    else
      let cs := digits.toList
      String.ofList (cs.take point.toNat) ++ "." ++ String.ofList (cs.drop point.toNat)
  else
    let cs := digits.toList
    let more := if count = 1 then "" else "." ++ String.ofList (cs.drop 1)
    let mark := if point > 0 then f.positiveMark else f.negativeMark
    String.ofList (cs.take 1) ++ more ++ mark ++ toString (point - 1).natAbs

def Number.text : Number → String
  | .int n => if n < 0 then "-" ++ toString n.natAbs else toString n.natAbs
  | .fraction x =>
    let sign := if x.negative then "-" else ""
    if x.mantissa = 0 then sign ++ "0.0"
    else sign ++ fractionFormat.write (Decimal.shortest x).trimmed

end FieldSeal.Json

import FieldSeal.Decimal.Binary64

/-!
# Shortest decimals

The decimal of a binary fraction with the fewest digits that reads back as the same number, and
among those the nearest to it; of two equally near ones the even one.

The numbers that read back lie between the midpoints to both neighbours, the midpoints included if
the mantissa is even. For each count of digits the two candidates are the grid points around the
number.
-/

namespace FieldSeal.Decimal

/-- A decimal: `digits * 10 ^ exponent`. -/
structure Scaled where
  digits : Nat
  exponent : Int
  deriving DecidableEq, Repr

/-- The fraction times a power of ten. -/
def scaleTen (num den : Nat) (e : Int) : Nat × Nat :=
  if 0 ≤ e then (num * Nat.pow 10 e.toNat, den) else (num, den * Nat.pow 10 (-e).toNat)

/-- The exponent `k` with `10 ^ (k - 1) ≤ num / den < 10 ^ k`, for a positive fraction. -/
def magnitude (num den : Nat) : Int :=
  let below (k : Int) : Bool := match scaleTen num den (-k) with | (n, d) => n < d
  let guess : Int := ((num.log2 : Int) - den.log2) * 1233 / 4096
  let start := guess - 1
  let upwards := (List.range 5).map fun (i : Nat) => start + (i : Int)
  (upwards.find? below).getD (start + 5)

/-- Four times the magnitude and its distances to the midpoints below and above, over one
denominator. -/
def bounds (x : Binary64) : Nat × Nat × Nat × Nat :=
  let unit := (Binary64.mk false 1 x.exponent).fraction
  let below := if x.mantissa = Nat.pow 2 52 ∧ x.exponent > -1074 then 1 else 2
  (4 * x.mantissa * unit.1, below * unit.1, 2 * unit.1, 4 * unit.2)

/-- The grid point nearest to the number among those that read back, on the grid of `count`
digits. -/
def candidate (x : Binary64) (count : Nat) : Option Scaled :=
  let (value, below, above, den) := bounds x
  let e := magnitude value den - count
  let (n, d) := scaleTen value den (-e)
  let (low, _) := scaleTen (value - below) den (-e)
  let (high, _) := scaleTen (value + above) den (-e)
  let reads (g : Nat) : Bool :=
    if x.mantissa % 2 = 0 then low ≤ g * d && g * d ≤ high else low < g * d && g * d < high
  let floor := n / d
  let near := Binary64.roundDiv n d
  let far := if near = floor then floor + 1 else floor
  if reads near then some ⟨near, e⟩ else if reads far then some ⟨far, e⟩ else none

/-- The shortest decimal of a number that is not zero. Seventeen digits always suffice. -/
def shortest (x : Binary64) : Scaled :=
  ((List.range' 1 17).findSome? (candidate x)).getD ⟨0, 0⟩

/-- The decimal without zeros at the end of its digits. -/
def Scaled.trimmed (s : Scaled) : Scaled :=
  go 20 s
where
  go : Nat → Scaled → Scaled
    | 0, s => s
    | n + 1, s =>
      if s.digits ≠ 0 ∧ s.digits % 10 = 0 then go n ⟨s.digits / 10, s.exponent + 1⟩ else s

end FieldSeal.Decimal

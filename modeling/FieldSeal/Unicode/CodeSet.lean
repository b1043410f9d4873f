import FieldSeal.Bytes.Hex

/-!
# Sets of characters

A set is a list of ranges of code points. Membership needs no order; `normal` brings the ranges into
ascending order and joins those that touch, which is what complements are made from.

Large sets are written as text: code points in hexadecimal, `low-high` for a range,
`low-high/step` for every `step`th character of a range, with blanks or line breaks between.
-/

namespace FieldSeal.Unicode

/-- Ranges of code points, both ends included. -/
abbrev CodeSet := List (Nat × Nat)

namespace CodeSet

/-- The highest code point. -/
def top : Nat := 0x10ffff

/-- Every character. -/
def full : CodeSet := [(0, top)]

def single (c : Char) : CodeSet := [(c.toNat, c.toNat)]

def contains (s : CodeSet) (n : Nat) : Bool := s.any fun r => r.1 ≤ n && n ≤ r.2

def has (s : CodeSet) (c : Char) : Bool := s.contains c.toNat

/-! ## Order -/

/-- Put a range in front of ranges in ascending order, joined with those that it meets. -/
def join (r : Nat × Nat) : CodeSet → CodeSet
  | [] => [r]
  | (low, high) :: rest =>
    if r.2 + 1 < low then r :: (low, high) :: rest else join (r.1, max r.2 high) rest

/-- The same characters as disjoint ranges that do not touch, in ascending order. -/
def normal (s : CodeSet) : CodeSet :=
  ((s.filter fun r => r.1 ≤ r.2).mergeSort fun a b => a.1 ≤ b.1).foldr join []

/-- What ranges in ascending order leave out from `start` on. -/
def gaps (start : Nat) : CodeSet → CodeSet
  | [] => if start ≤ top then [(start, top)] else []
  | (low, high) :: rest =>
    if start < low then (start, low - 1) :: gaps (high + 1) rest else gaps (max start (high + 1)) rest

def complement (s : CodeSet) : CodeSet := gaps 0 s.normal

def inter (a b : CodeSet) : CodeSet := (a.complement ++ b.complement).complement

def diff (a b : CodeSet) : CodeSet := a.inter b.complement

/-- The characters in exactly one of two sets. -/
def symmDiff (a b : CodeSet) : CodeSet := (a ++ b).diff (a.inter b)

/-- Every character of the set is ASCII. -/
def isAscii (s : CodeSet) : Bool := s.all fun r => r.2 < 128

/-! ## Written sets -/

/-- The parts of a text between blanks and line breaks. -/
def words (cs : List Char) : List (List Char) :=
  let (word, words) := cs.foldr
    (fun c (word, words) =>
      if c = ' ' ∨ c = '\n' then ([], word :: words) else (c :: word, words)) ([], [])
  (word :: words).filter (!·.isEmpty)

/-- The ranges of one word; a word that is no range gives none. -/
def ofWord (word : List Char) : CodeSet :=
  let low := word.takeWhile (· ≠ '-')
  let rest := (word.dropWhile (· ≠ '-')).drop 1
  let high := rest.takeWhile (· ≠ '/')
  let step := (rest.dropWhile (· ≠ '/')).drop 1
  match Hex.number? low, Hex.number? high, Hex.number? step with
  | some a, none, _ => [(a, a)]
  | some a, some b, none => [(a, b)]
  | some a, some b, some step =>
    (List.range ((b - a) / step + 1)).map fun i => (a + step * i, a + step * i)
  | none, _, _ => []

/-- The set that a text denotes. -/
def ofText (text : String) : CodeSet := (words text.toList).flatMap ofWord

@[simp] theorem contains_nil (n : Nat) : contains [] n = false := rfl

@[simp] theorem contains_append (a b : CodeSet) (n : Nat) :
    contains (a ++ b) n = (contains a n || contains b n) := by simp [contains]

theorem has_single (c d : Char) : (single c).has d = (d = c) := by
  simp only [single, has, contains, List.any_cons, List.any_nil, Bool.or_false, Bool.and_eq_true,
    decide_eq_true_eq, eq_iff_iff]
  constructor
  · exact fun h => Char.toNat_inj.1 (Nat.le_antisymm h.2 h.1)
  · rintro rfl; exact ⟨Nat.le_refl _, Nat.le_refl _⟩

end CodeSet

end FieldSeal.Unicode

import FieldSeal.Proofs.Pattern.Search

/-!
# Texts at whose start a pattern fails

**Spots.** Two positions matter here: the start of a text and any place behind it. From the shape of
a pattern and the first character of a text follows between which spots a match may lead
(`Shape.may`). This is an upper bound: behind the start every set may take a character, and a
condition fails only at an end of the text.

**Exclusion** (`not_occurs_of_excludes`). A pattern that may lead from no spot to any other occurs in
no text with this first character. That can be computed from the pattern alone, and so it speaks of
all texts at once.
-/

namespace FieldSeal.Pattern

open FieldSeal.Unicode (CodeSet)

/-! ## Spots -/

/-- The start of a text, or some place behind it. -/
inductive Spot where
  | start
  | later
  deriving DecidableEq

def Spot.of : Nat → Spot
  | 0 => .start
  | _ + 1 => .later

/-- The condition may hold at a spot of a text that is not empty. -/
def Look.mayHold : Look → Spot → Bool
  | textStart, .later | textEnd, .start => false
  | _, _ => true

/-- A match may lead from one spot to another, in a text with the given first character. -/
def Shape.may (first : Char) : Shape CodeSet Look → Spot → Spot → Bool
  | empty, s, t => s = t
  | take set, .start, t => t = .later && set.has first
  | take _, .later, t => t = .later
  | test l, s, t => s = t && l.mayHold s
  | cat a b, s, t =>
    (a.may first s .start && b.may first .start t) || (a.may first s .later && b.may first .later t)
  | alt a b, s, t => a.may first s t || b.may first s t
  | rep a min _, s, t => (min = 0 && s = t) || a.may first s t

/-- A pattern may match nowhere in a text with the given first character. -/
def Shape.excludes (first : Char) (p : Shape CodeSet Look) : Bool :=
  !(p.may first .start .start || p.may first .start .later || p.may first .later .later)

/-! ## Soundness -/

variable {first : Char} {rest : List Char} {i j n : Nat}

theorem Look.mayHold_of_holds {l : Look} (hi : i ≤ (first :: rest).length)
    (h : l.holds (charBefore (first :: rest) i) (first :: rest)[i]?) : l.mayHold (.of i) := by
  cases i with
  | zero => cases l <;> first | rfl | cases h
  | succ i =>
    cases l with
    | textStart =>
      rw [holds, charBefore, List.getElem?_eq_getElem hi] at h
      cases h
    | _ => rfl

/-- Steps that do not lead back lead between spots as one of them does. -/
theorem Times.may {R : Nat → Nat → Prop} {P : Spot → Spot → Bool}
    (hR : ∀ i j, R i j → i ≤ j ∧ P (.of i) (.of j)) (h : Times R n i j) :
    i ≤ j ∧ (n = 0 ∧ i = j ∨ P (.of i) (.of j)) := by
  induction n generalizing i with
  | zero => exact ⟨Nat.le_of_eq h, .inl ⟨rfl, h⟩⟩
  | succ n ih =>
    obtain ⟨k, hstep, hrest⟩ := h
    obtain ⟨hik, hP⟩ := hR i k hstep
    obtain ⟨hkj, hlast⟩ := ih hrest
    refine ⟨Nat.le_trans hik hkj, .inr ?_⟩
    rcases hlast with ⟨-, rfl⟩ | hlast
    · exact hP
    · cases i with
      | zero =>
        cases k with
        | zero => exact hlast
        | succ k =>
          cases j with
          | zero => cases hkj
          | succ j => exact hP
      | succ i =>
        cases k with
        | zero => cases hik
        | succ k => exact hlast

/-- A match leads between spots as its pattern may. -/
theorem Shape.Matches.may {p : Shape CodeSet Look} (h : p.Matches (first :: rest) i j) :
    i ≤ j ∧ p.may first (.of i) (.of j) := by
  induction p generalizing i j with
  | empty =>
    cases h
    exact ⟨Nat.le_refl i, decide_eq_true rfl⟩
  | take s =>
    obtain ⟨rfl, c, hc, hs⟩ := h
    refine ⟨Nat.le_succ i, ?_⟩
    cases i with
    | zero =>
      cases hc
      exact hs
    | succ i => rfl
  | test l =>
    obtain ⟨rfl, hi, hholds⟩ := h
    refine ⟨Nat.le_refl i, ?_⟩
    rw [Shape.may, Look.mayHold_of_holds hi hholds, Bool.and_true]
    exact decide_eq_true rfl
  | cat a b iha ihb =>
    obtain ⟨k, ha, hb⟩ := h
    obtain ⟨hik, hma⟩ := iha ha
    obtain ⟨hkj, hmb⟩ := ihb hb
    refine ⟨Nat.le_trans hik hkj, ?_⟩
    cases k with
    | zero => exact Bool.or_eq_true_iff.2 (.inl (Bool.and_eq_true_iff.2 ⟨hma, hmb⟩))
    | succ k => exact Bool.or_eq_true_iff.2 (.inr (Bool.and_eq_true_iff.2 ⟨hma, hmb⟩))
  | alt a b iha ihb =>
    rcases h with ha | hb
    · exact ⟨(iha ha).1, Bool.or_eq_true_iff.2 (.inl (iha ha).2)⟩
    · exact ⟨(ihb hb).1, Bool.or_eq_true_iff.2 (.inr (ihb hb).2)⟩
  | rep a min max ih =>
    obtain ⟨n, hmin, -, htimes⟩ := h
    obtain ⟨hij, hmay⟩ := htimes.may (P := a.may first) fun _ _ hstep => ih hstep
    refine ⟨hij, Bool.or_eq_true_iff.2 ?_⟩
    rcases hmay with ⟨rfl, rfl⟩ | hmay
    · left
      rw [Nat.le_zero.1 hmin]
      simp
    · exact .inr hmay

/-- **An excluded pattern does not occur.** -/
theorem not_occurs_of_excludes {p : Shape CodeSet Look} (h : p.excludes first) (rest : List Char) :
    ¬occurs p (first :: rest) := by
  intro hoccurs
  obtain ⟨i, j, hmatch⟩ := exists_matches_of_occurs hoccurs
  obtain ⟨hij, hmay⟩ := hmatch.may
  rw [Shape.excludes, Bool.not_eq_true', Bool.or_eq_false_iff, Bool.or_eq_false_iff] at h
  obtain ⟨⟨hstart, hleave⟩, hlater⟩ := h
  cases i with
  | zero =>
    cases j with
    | zero => exact Bool.false_ne_true (hstart.symm.trans hmay)
    | succ j => exact Bool.false_ne_true (hleave.symm.trans hmay)
  | succ i =>
    cases j with
    | zero => cases hij
    | succ j => exact Bool.false_ne_true (hlater.symm.trans hmay)

end FieldSeal.Pattern

import FieldSeal.Proofs.Pattern.Search

/-!
# What a match takes

**Extents.** How many characters a match takes is bounded by the shape of its pattern
(`Shape.extent`, `Shape.Matches.extent`). Alternatives that are not within anything else have bounds of
their own (`Shape.extents`), so that a pattern for texts of two lengths is not taken for one of all
lengths in between.

**Anchors.** A pattern that is anchored on both sides (`Shape.fromStart`, `Shape.toEnd`) occurs in a text
only if it matches the whole of it (`matches_of_occurs`).

**Characters.** A match takes no character that no set of its pattern holds
(`Shape.Matches.getElem?_ne`).
-/

namespace FieldSeal.Pattern

open FieldSeal.Unicode (CodeSet)

/-! ## Extents -/

/-- Bounds for a number of characters; there may be no upper one. -/
structure Extent where
  least : Nat
  most : Option Nat
  deriving DecidableEq, Repr

namespace Extent

/-- The number lies between the bounds. -/
def Admits (e : Extent) (n : Nat) : Prop := e.least ≤ n ∧ ∀ most ∈ e.most, n ≤ most

/-- One after the other. -/
def add (e e' : Extent) : Extent :=
  ⟨e.least + e'.least, e.most.bind fun m => e'.most.map (m + ·)⟩

/-- One or the other. -/
def join (e e' : Extent) : Extent :=
  ⟨min e.least e'.least, e.most.bind fun m => e'.most.map (max m)⟩

/-- Again and again, at least `low` and at most `high` times. Of two bounds that contradict each other,
the lower one counts. -/
def times (e : Extent) (low : Nat) (high : Option Nat) : Extent :=
  ⟨low * e.least, high.bind fun h => e.most.map (max low h * ·)⟩

variable {e e' : Extent} {n n' : Nat}

@[simp] theorem admits_between {low high : Nat} :
    (⟨low, some high⟩ : Extent).Admits n ↔ low ≤ n ∧ n ≤ high := by simp [Admits]

@[simp] theorem admits_from {low : Nat} : (⟨low, none⟩ : Extent).Admits n ↔ low ≤ n := by
  simp [Admits]

theorem Admits.add (h : e.Admits n) (h' : e'.Admits n') : (e.add e').Admits (n + n') := by
  refine ⟨Nat.add_le_add h.1 h'.1, fun most hmost => ?_⟩
  simp only [Extent.add, Option.mem_def, Option.bind_eq_some_iff, Option.map_eq_some_iff] at hmost
  obtain ⟨m, hm, m', hm', rfl⟩ := hmost
  exact Nat.add_le_add (h.2 m hm) (h'.2 m' hm')

theorem Admits.join_left (h : e.Admits n) : (e.join e').Admits n := by
  refine ⟨Nat.le_trans (Nat.min_le_left _ _) h.1, fun most hmost => ?_⟩
  simp only [join, Option.mem_def, Option.bind_eq_some_iff, Option.map_eq_some_iff] at hmost
  obtain ⟨m, hm, m', -, rfl⟩ := hmost
  exact Nat.le_trans (h.2 m hm) (Nat.le_max_left m m')

theorem Admits.join_right (h : e'.Admits n) : (e.join e').Admits n := by
  refine ⟨Nat.le_trans (Nat.min_le_right _ _) h.1, fun most hmost => ?_⟩
  simp only [join, Option.mem_def, Option.bind_eq_some_iff, Option.map_eq_some_iff] at hmost
  obtain ⟨m, -, m', hm', rfl⟩ := hmost
  exact Nat.le_trans (h.2 m' hm') (Nat.le_max_right m m')

/-- A number of steps takes what that many extents admit. -/
theorem exists_of_times {R : Nat → Nat → Prop} {count i j : Nat}
    (hR : ∀ i j, R i j → ∃ n, j = i + n ∧ e.Admits n) (h : Times R count i j) :
    ∃ n, j = i + n ∧ count * e.least ≤ n ∧ ∀ most ∈ e.most, n ≤ count * most := by
  induction count generalizing i with
  | zero =>
    cases h
    exact ⟨0, rfl, by omega, fun _ _ => Nat.zero_le _⟩
  | succ count ih =>
    obtain ⟨k, hstep, hrest⟩ := h
    obtain ⟨n, rfl, hleast, hmost⟩ := hR i k hstep
    obtain ⟨n', rfl, hleast', hmost'⟩ := ih hrest
    refine ⟨n + n', Nat.add_assoc i n n', ?_, fun most h => ?_⟩
    · rw [Nat.succ_mul, Nat.add_comm]
      exact Nat.add_le_add hleast hleast'
    · rw [Nat.succ_mul, Nat.add_comm]
      exact Nat.add_le_add (hmost' most h) (hmost most h)

theorem admits_times {low count : Nat} {high : Option Nat} (hlow : low ≤ count)
    (hhigh : ∀ most ∈ high, count ≤ low ∨ count ≤ most) (hleast : count * e.least ≤ n)
    (hmost : ∀ most ∈ e.most, n ≤ count * most) : (e.times low high).Admits n := by
  refine ⟨Nat.le_trans (Nat.mul_le_mul_right e.least hlow) hleast, fun most h => ?_⟩
  simp only [times, Option.mem_def, Option.bind_eq_some_iff, Option.map_eq_some_iff] at h
  obtain ⟨m, hm, each, heach, rfl⟩ := h
  have hcount : count ≤ max low m := by
    rcases hhigh m hm with h | h <;> omega
  exact Nat.le_trans (hmost each heach) (Nat.mul_le_mul_right each hcount)

end Extent

namespace Shape

variable {σ τ : Type}

/-- How many characters a match takes. -/
def extent : Shape σ τ → Extent
  | empty | test _ => ⟨0, some 0⟩
  | take _ => ⟨1, some 1⟩
  | cat a b => a.extent.add b.extent
  | alt a b => a.extent.join b.extent
  | rep a low high => a.extent.times low high

/-- The same for each of the alternatives. -/
def extents : Shape σ τ → List Extent
  | alt a b => a.extents ++ b.extents
  | p => [p.extent]

variable {p : Shape CodeSet Look} {text : List Char} {i j : Nat}

theorem Matches.extent (h : p.Matches text i j) : ∃ n, j = i + n ∧ p.extent.Admits n := by
  induction p generalizing i j with
  | empty =>
    cases h
    exact ⟨0, rfl, Nat.zero_le 0, fun _ _ => Nat.zero_le _⟩
  | take s =>
    obtain ⟨rfl, -⟩ := h
    refine ⟨1, rfl, Nat.le_refl 1, fun most hmost => ?_⟩
    cases hmost
    exact Nat.le_refl 1
  | test l =>
    obtain ⟨rfl, -⟩ := h
    exact ⟨0, rfl, Nat.zero_le 0, fun _ _ => Nat.zero_le _⟩
  | cat a b iha ihb =>
    obtain ⟨k, ha, hb⟩ := h
    obtain ⟨n, rfl, hn⟩ := iha ha
    obtain ⟨n', rfl, hn'⟩ := ihb hb
    exact ⟨n + n', Nat.add_assoc i n n', hn.add hn'⟩
  | alt a b iha ihb =>
    rcases h with ha | hb
    · obtain ⟨n, hj, hn⟩ := iha ha
      exact ⟨n, hj, hn.join_left⟩
    · obtain ⟨n, hj, hn⟩ := ihb hb
      exact ⟨n, hj, hn.join_right⟩
  | rep a low high ih =>
    -- How often it is repeated is not known to the pattern, only within its bounds.
    obtain ⟨count, hlow, hhigh, htimes⟩ := h
    obtain ⟨n, hj, hleast, hmost⟩ := Extent.exists_of_times (fun _ _ => ih) htimes
    exact ⟨n, hj, Extent.admits_times hlow hhigh hleast hmost⟩

theorem Matches.exists_extent (h : p.Matches text i j) :
    ∃ n, j = i + n ∧ ∃ e ∈ p.extents, e.Admits n := by
  induction p with
  | alt a b iha ihb =>
    rcases h with ha | hb
    · obtain ⟨n, hj, e, he, hn⟩ := iha ha
      exact ⟨n, hj, e, List.mem_append_left _ he, hn⟩
    · obtain ⟨n, hj, e, he, hn⟩ := ihb hb
      exact ⟨n, hj, e, List.mem_append_right _ he, hn⟩
  | _ =>
    obtain ⟨n, hj, hn⟩ := Matches.extent h
    exact ⟨n, hj, _, List.mem_singleton_self _, hn⟩

/-! ## Anchors -/

/-- A match begins at the start of the text. -/
def fromStart : Shape CodeSet Look → Bool
  | test .textStart => true
  | cat a _ => a.fromStart
  | alt a b => a.fromStart && b.fromStart
  | _ => false

/-- A match ends at the end of the text. -/
def toEnd : Shape CodeSet Look → Bool
  | test .textEnd => true
  | cat _ b => b.toEnd
  | alt a b => a.toEnd && b.toEnd
  | _ => false

theorem Matches.eq_zero (h : p.Matches text i j) (hp : p.fromStart) : i = 0 := by
  induction p generalizing i j with
  | test l =>
    cases l with
    | textStart =>
      obtain ⟨-, hi, hholds⟩ := h
      cases i with
      | zero => rfl
      | succ i =>
        rw [charBefore, Look.holds, List.getElem?_eq_getElem hi] at hholds
        cases hholds
    | _ => cases hp
  | cat a b iha ihb =>
    obtain ⟨k, ha, -⟩ := h
    exact iha ha hp
  | alt a b iha ihb =>
    obtain ⟨hpa, hpb⟩ := Bool.and_eq_true_iff.1 hp
    rcases h with ha | hb
    · exact iha ha hpa
    · exact ihb hb hpb
  | _ => cases hp

theorem Matches.eq_length (h : p.Matches text i j) (hp : p.toEnd) : j = text.length := by
  induction p generalizing i j with
  | test l =>
    cases l with
    | textEnd =>
      obtain ⟨rfl, hi, hholds⟩ := h
      rw [Look.holds, Option.isNone_iff_eq_none, List.getElem?_eq_none_iff] at hholds
      exact Nat.le_antisymm hi hholds
    | _ => cases hp
  | cat a b iha ihb =>
    obtain ⟨k, -, hb⟩ := h
    exact ihb hb hp
  | alt a b iha ihb =>
    obtain ⟨hpa, hpb⟩ := Bool.and_eq_true_iff.1 hp
    rcases h with ha | hb
    · exact iha ha hpa
    · exact ihb hb hpb
  | _ => cases hp

/-! ## Characters -/

/-- No set of the pattern holds the character. -/
def avoids (c : Char) : Shape CodeSet Look → Bool
  | empty | test _ => true
  | take s => !s.has c
  | cat a b | alt a b => a.avoids c && b.avoids c
  | rep a _ _ => a.avoids c

end Shape

/-- What holds of the positions within each step holds of those within a number of steps. -/
theorem Times.forall_between {R : Nat → Nat → Prop} {Q : Nat → Prop} {n i j : Nat}
    (hR : ∀ i j, R i j → ∀ k, i ≤ k → k < j → Q k) (h : Times R n i j) {k : Nat} (hik : i ≤ k)
    (hkj : k < j) : Q k := by
  induction n generalizing i with
  | zero =>
    cases h
    exact absurd hkj (Nat.not_lt.2 hik)
  | succ n ih =>
    obtain ⟨l, hstep, hrest⟩ := h
    by_cases hkl : k < l
    · exact hR i l hstep k hik hkl
    · exact ih hrest (Nat.not_lt.1 hkl)

variable {p : Shape CodeSet Look} {text : List Char} {i j k : Nat} {c : Char}

theorem Shape.Matches.getElem?_ne (h : p.Matches text i j) (hp : p.avoids c) (hik : i ≤ k)
    (hkj : k < j) : text[k]? ≠ some c := by
  induction p generalizing i j k with
  | take s =>
    obtain ⟨rfl, d, hd, hs⟩ := h
    obtain rfl : k = i := by omega
    rw [hd]
    rintro ⟨⟩
    rw [Shape.avoids, hs] at hp
    cases hp
  | cat a b iha ihb =>
    obtain ⟨hpa, hpb⟩ := Bool.and_eq_true_iff.1 hp
    obtain ⟨l, ha, hb⟩ := h
    by_cases hkl : k < l
    · exact iha ha hpa hik hkl
    · exact ihb hb hpb (Nat.not_lt.1 hkl) hkj
  | alt a b iha ihb =>
    obtain ⟨hpa, hpb⟩ := Bool.and_eq_true_iff.1 hp
    rcases h with ha | hb
    · exact iha ha hpa hik hkj
    · exact ihb hb hpb hik hkj
  | rep a low high ih =>
    obtain ⟨n, -, -, htimes⟩ := h
    exact htimes.forall_between (fun _ _ hstep _ => ih hstep hp) hik hkj
  | empty =>
    cases h
    exact absurd hkj (Nat.not_lt.2 hik)
  | test l =>
    obtain ⟨rfl, -⟩ := h
    exact absurd hkj (Nat.not_lt.2 hik)

theorem Shape.Matches.notMem (h : p.Matches text i j) (hp : p.avoids c) :
    c ∉ (text.take j).drop i := by
  intro hmem
  obtain ⟨k, hk⟩ := List.getElem?_of_mem hmem
  rw [List.getElem?_drop, List.getElem?_take] at hk
  split at hk
  · next hlt => exact h.getElem?_ne hp (Nat.le_add_right i k) hlt hk
  · cases hk

/-! ## Whole texts -/

/-- **An anchored pattern matches the whole text** or does not occur in it. -/
theorem matches_of_occurs (h : occurs p text) (hstart : p.fromStart) (hend : p.toEnd) :
    p.Matches text 0 text.length := by
  obtain ⟨i, j, hmatch⟩ := exists_matches_of_occurs h
  have hi := hmatch.eq_zero hstart
  have hj := hmatch.eq_length hend
  rwa [hi, hj] at hmatch

/-- The length of a text is that of a match. -/
theorem exists_extent_of_occurs (h : occurs p text) (hstart : p.fromStart) (hend : p.toEnd) :
    ∃ e ∈ p.extents, e.Admits text.length := by
  obtain ⟨n, hn, hextent⟩ := (matches_of_occurs h hstart hend).exists_extent
  rwa [hn, Nat.zero_add]

/-- A text holds no character that its pattern avoids. -/
theorem notMem_of_occurs (h : occurs p text) (hstart : p.fromStart) (hend : p.toEnd)
    (hc : p.avoids c) : c ∉ text := by
  have hwhole := (matches_of_occurs h hstart hend).notMem hc
  rwa [List.take_length, List.drop_zero] at hwhole

end FieldSeal.Pattern

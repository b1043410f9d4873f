import FieldSeal.Pattern.Search

/-!
# The search finds matches

**Matches.** Which parts of a text a pattern matches is said by recursion on its shape
(`Shape.Matches`): a repetition matches what its part matches a number of times in a row (`Times`).

**Search.** A set of positions is a number, and each shape maps the positions at which a match may
begin to those at which it may end. Whatever it reaches is reached by a match from one of the
positions at the start (`Finds`). The closure of an unbounded repetition never leaves what can be
reached at all, whatever the number of its rounds (`closure_sound`).

Hence a pattern that occurs in a text matches a part of it (`exists_matches_of_occurs`).
-/

namespace FieldSeal.Pattern

open FieldSeal.Unicode (CodeSet)

/-! ## Matches -/

/-- A number of steps from one position to another. -/
def Times (R : Nat → Nat → Prop) : Nat → Nat → Nat → Prop
  | 0, i, j => i = j
  | n + 1, i, j => ∃ k, R i k ∧ Times R n k j

theorem Times.add {R : Nat → Nat → Prop} {m n i k j : Nat} (h : Times R m i k)
    (h' : Times R n k j) : Times R (n + m) i j := by
  induction m generalizing i with
  | zero =>
    cases h
    exact h'
  | succ m ih =>
    obtain ⟨l, hstep, hrest⟩ := h
    exact ⟨l, hstep, ih hrest⟩

/-- The character in front of a position. -/
def charBefore (text : List Char) : Nat → Option Char
  | 0 => none
  | i + 1 => text[i]?

/-- The part of the text between two positions matches. Of two bounds of a repetition that
contradict each other, the lower one counts. -/
def Shape.Matches (text : List Char) : Shape CodeSet Look → Nat → Nat → Prop
  | empty, i, j => i = j
  | take s, i, j => j = i + 1 ∧ ∃ c, text[i]? = some c ∧ s.has c
  | test l, i, j => i = j ∧ i ≤ text.length ∧ l.holds (charBefore text i) text[i]?
  | cat a b, i, j => ∃ k, a.Matches text i k ∧ b.Matches text k j
  | alt a b, i, j => a.Matches text i j ∨ b.Matches text i j
  | rep a min max, i, j =>
    ∃ n, min ≤ n ∧ (∀ most ∈ max, n ≤ min ∨ n ≤ most) ∧ Times (a.Matches text) n i j

/-! ## Marks -/

theorem Marks.testBit_ofList (bits : List Bool) (i : Nat) :
    (Marks.ofList bits).testBit i = bits[i]?.getD false := by
  induction bits generalizing i with
  | nil => simp [Marks.ofList]
  | cons b bits ih =>
    have hcons : Marks.ofList (b :: bits) = 2 * Marks.ofList bits + b.toNat := rfl
    cases i with
    | zero =>
      rw [hcons, Nat.testBit_zero]
      cases b <;> simp
    | succ i =>
      have hlt := b.toNat_lt
      have hhalf : ∀ m : Nat, (2 * m + b.toNat) / 2 = m := by omega
      rw [hcons, Nat.testBit_add_one, hhalf, ih, List.getElem?_cons_succ]

theorem testBit_marksOfSet {text : List Char} {s : CodeSet} {i : Nat} :
    (marksOfSet text s).testBit i ↔ ∃ c, text[i]? = some c ∧ s.has c := by
  rw [marksOfSet, Marks.testBit_ofList, List.getElem?_map]
  cases text[i]? with
  | none => simp
  | some c => simp

theorem getElem?_verdicts (holds : Option Char → Option Char → Bool) (before : Option Char)
    (text : List Char) (i : Nat) :
    (verdicts holds before text)[i]? =
      if i ≤ text.length then
        some (holds (if i = 0 then before else charBefore text i) text[i]?)
      else none := by
  induction text generalizing before i with
  | nil =>
    cases i with
    | zero => rfl
    | succ i => rfl
  | cons c text ih =>
    cases i with
    | zero => rfl
    | succ i =>
      rw [verdicts, List.getElem?_cons_succ, ih, List.length_cons, List.getElem?_cons_succ]
      simp only [Nat.add_le_add_iff_right, Nat.add_one_ne_zero, if_false]
      cases i <;> rfl

theorem testBit_marksOfLook {text : List Char} {l : Look} {i : Nat} :
    (marksOfLook text l).testBit i ↔
      i ≤ text.length ∧ l.holds (charBefore text i) text[i]? := by
  have hbefore : (if i = 0 then none else charBefore text i) = charBefore text i := by
    cases i <;> rfl
  rw [marksOfLook, Marks.testBit_ofList, getElem?_verdicts, hbefore]
  by_cases hi : i ≤ text.length
  · simp [hi]
  · simp [hi]

/-! ## Search -/

/-- What a step reaches, it reaches from one of the given positions. -/
def Finds (f : Marks → Marks) (R : Nat → Nat → Prop) : Prop :=
  ∀ m j, (f m).testBit j → ∃ i, m.testBit i ∧ R i j

section Repetition

variable {f : Marks → Marks} {R : Nat → Nat → Prop}

theorem finds_power (h : Finds f R) (n : Nat) : Finds (Shape.power f n) (Times R n) := by
  induction n with
  | zero => exact fun m j hj => ⟨j, hj, rfl⟩
  | succ n ih =>
    intro m j hj
    rw [Shape.power] at hj
    split at hj
    · simp at hj
    · obtain ⟨k, hk, hrest⟩ := ih _ _ hj
      obtain ⟨i, hi, hstep⟩ := h _ _ hk
      exact ⟨i, hi, k, hstep, hrest⟩

theorem finds_atMost (h : Finds f R) (n : Nat) :
    Finds (Shape.atMost f n) fun i j => ∃ k ≤ n, Times R k i j := by
  induction n with
  | zero => exact fun m j hj => ⟨j, hj, 0, Nat.le_refl 0, rfl⟩
  | succ n ih =>
    intro m j hj
    rw [Shape.atMost] at hj
    split at hj
    · simp at hj
    · rw [Nat.testBit_or, Bool.or_eq_true] at hj
      rcases hj with hj | hj
      · exact ⟨j, hj, 0, Nat.zero_le _, rfl⟩
      · obtain ⟨k, hk, n', hle, hrest⟩ := ih _ _ hj
        obtain ⟨i, hi, hstep⟩ := h _ _ hk
        exact ⟨i, hi, n' + 1, Nat.succ_le_succ hle, k, hstep, hrest⟩

/-- A closure stays within what steps do not leave. -/
theorem closure_sound (h : Finds f R) {Q : Nat → Prop} (hQ : ∀ i j, Q i → R i j → Q j)
    (rounds : Nat) {reached fresh : Marks} (hreached : ∀ i, reached.testBit i → Q i)
    (hfresh : ∀ i, fresh.testBit i → Q i) {j : Nat}
    (hj : (Shape.closure f rounds reached fresh).testBit j) : Q j := by
  induction rounds generalizing reached fresh with
  | zero => exact hreached j hj
  | succ rounds ih =>
    have hfound : ∀ i, (Marks.minus (f fresh) reached).testBit i → Q i := by
      intro i hi
      have hstep : (f fresh).testBit i := by
        rw [Marks.minus, Nat.testBit_xor, Nat.testBit_and] at hi
        cases hbit : (f fresh).testBit i with
        | true => rfl
        | false => simp [hbit] at hi
      obtain ⟨k, hk, hR⟩ := h _ _ hstep
      exact hQ k i (hfresh k hk) hR
    rw [Shape.closure] at hj
    split at hj
    · exact hreached j hj
    · refine ih (fun i hi => ?_) hfound hj
      rw [Nat.testBit_or, Bool.or_eq_true] at hi
      exact hi.elim (hreached i) (hfound i)

end Repetition

/-- **What the search reaches, a match reaches.** -/
theorem finds_ends (text : List Char) (n : Nat) (p : Shape CodeSet Look) :
    Finds ((p.map (marksOfSet text) (marksOfLook text)).ends n) (p.Matches text) := by
  induction p with
  | empty => exact fun m j hj => ⟨j, hj, rfl⟩
  | take s =>
    intro m j hj
    rw [Shape.map, Shape.ends, Nat.testBit_shiftLeft, Nat.testBit_and] at hj
    simp only [Bool.and_eq_true, decide_eq_true_eq] at hj
    obtain ⟨hle, hm, hs⟩ := hj
    exact ⟨j - 1, hm, by omega, testBit_marksOfSet.1 hs⟩
  | test l =>
    intro m j hj
    rw [Shape.map, Shape.ends, Nat.testBit_and, Bool.and_eq_true] at hj
    exact ⟨j, hj.1, rfl, testBit_marksOfLook.1 hj.2⟩
  | cat a b iha ihb =>
    intro m j hj
    obtain ⟨k, hk, hb⟩ := ihb _ _ hj
    obtain ⟨i, hi, ha⟩ := iha _ _ hk
    exact ⟨i, hi, k, ha, hb⟩
  | alt a b iha ihb =>
    intro m j hj
    rw [Shape.map, Shape.ends, Nat.testBit_or, Bool.or_eq_true] at hj
    rcases hj with hj | hj
    · obtain ⟨i, hi, ha⟩ := iha _ _ hj
      exact ⟨i, hi, .inl ha⟩
    · obtain ⟨i, hi, hb⟩ := ihb _ _ hj
      exact ⟨i, hi, .inr hb⟩
  | rep a min max ih =>
    intro m j hj
    have hpower := finds_power ih min
    cases max with
    | none =>
      refine closure_sound (Q := fun j => ∃ i, m.testBit i ∧ (Shape.rep a min none).Matches text i j)
        ih ?_ (n + 1) ?_ ?_ hj
      · rintro k l ⟨i, hi, count, hmin, -, htimes⟩ hstep
        exact ⟨i, hi, 1 + count, by omega, nofun, htimes.add ⟨l, hstep, rfl⟩⟩
      · intro k hk
        obtain ⟨i, hi, htimes⟩ := hpower _ _ hk
        exact ⟨i, hi, min, Nat.le_refl min, nofun, htimes⟩
      · intro k hk
        obtain ⟨i, hi, htimes⟩ := hpower _ _ hk
        exact ⟨i, hi, min, Nat.le_refl min, nofun, htimes⟩
    | some most =>
      obtain ⟨k, hk, more, hle, hrest⟩ := finds_atMost ih (most - min) _ _ hj
      obtain ⟨i, hi, htimes⟩ := hpower _ _ hk
      refine ⟨i, hi, more + min, Nat.le_add_left min more, fun other hother => ?_,
        htimes.add hrest⟩
      cases hother
      omega

/-- A pattern that occurs in a text matches a part of it. -/
theorem exists_matches_of_occurs {p : Shape CodeSet Look} {text : List Char}
    (h : occurs p text) : ∃ i j, p.Matches text i j := by
  obtain ⟨j, hj⟩ := Nat.exists_testBit_of_ne_zero (of_decide_eq_true h)
  obtain ⟨i, -, hmatch⟩ := finds_ends text text.length p _ _ hj
  exact ⟨i, j, hmatch⟩

end FieldSeal.Pattern

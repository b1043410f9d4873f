import FieldSeal.Proofs.Pattern.Search
import Mathlib.Data.Finset.Card

/-!
# The search finds every match

**Theorem (`occurs_iff`).** A pattern occurs in a text exactly if it matches a part of it.

**Marks.** All positions that a search marks are positions of the text (`Marks.Within`). From marked
positions each shape reaches whatever its matches reach (`Reaches`, `reaches_ends`).

**Closures** (`closure_closed`). A closure is closed under its step. Each round but the last marks a
position that was not marked before, so that the positions left unmarked (`missing`) are at most as many
as the rounds that are left. After the last round there are none.
-/

namespace FieldSeal.Pattern

open FieldSeal.Unicode (CodeSet)

variable {n : Nat} {m : Marks} {text : List Char}

/-! ## Positions of the text -/

/-- Only positions up to `n` are marked. -/
def Marks.Within (n : Nat) (m : Marks) : Prop := ∀ i, m.testBit i → i ≤ n

theorem Marks.within_or {m' : Marks} (h : m.Within n) (h' : m'.Within n) :
    Marks.Within n (m ||| m') := by
  intro i hi
  rw [Nat.testBit_or, Bool.or_eq_true] at hi
  exact hi.elim (h i) (h' i)

theorem Marks.testBit_minus {a b : Marks} {i : Nat} :
    (Marks.minus a b).testBit i ↔ a.testBit i ∧ ¬b.testBit i := by
  rw [Marks.minus, Nat.testBit_xor, Nat.testBit_and]
  cases a.testBit i <;> cases b.testBit i <;> simp

theorem Marks.testBit_upTo (n i : Nat) : (Marks.upTo n).testBit i ↔ i ≤ n := by
  show (2 ^ (n + 1) - 1).testBit i ↔ i ≤ n
  rw [Nat.testBit_two_pow_sub_one, decide_eq_true_eq, Nat.lt_succ_iff]

theorem Times.le {R : Nat → Nat → Prop} (hR : ∀ i j, i ≤ n → R i j → j ≤ n) {count i j : Nat}
    (h : Times R count i j) (hi : i ≤ n) : j ≤ n := by
  induction count generalizing i with
  | zero => exact h ▸ hi
  | succ count ih =>
    obtain ⟨k, hstep, hrest⟩ := h
    exact ih hrest (hR i k hi hstep)

theorem Times.split {R : Nat → Nat → Prop} {count count' i j : Nat}
    (h : Times R (count + count') i j) : ∃ k, Times R count i k ∧ Times R count' k j := by
  induction count generalizing i with
  | zero => exact ⟨i, rfl, by rwa [Nat.zero_add] at h⟩
  | succ count ih =>
    rw [Nat.succ_add] at h
    obtain ⟨l, hstep, hrest⟩ := h
    obtain ⟨k, hfirst, hsecond⟩ := ih hrest
    exact ⟨k, ⟨l, hstep, hfirst⟩, hsecond⟩

/-- A match ends within the text. -/
theorem Shape.Matches.le_length {p : Shape CodeSet Look} {i j : Nat} (h : p.Matches text i j)
    (hi : i ≤ text.length) : j ≤ text.length := by
  induction p generalizing i j with
  | empty => exact h ▸ hi
  | take s =>
    obtain ⟨rfl, c, hc, -⟩ := h
    exact (List.getElem?_eq_some_iff.1 hc).1
  | test l =>
    obtain ⟨rfl, -⟩ := h
    exact hi
  | cat a b iha ihb =>
    obtain ⟨k, ha, hb⟩ := h
    exact ihb hb (iha ha hi)
  | alt a b iha ihb => exact h.elim (iha · hi) (ihb · hi)
  | rep a min max ih =>
    obtain ⟨count, -, -, htimes⟩ := h
    exact htimes.le (fun _ _ hle hstep => ih hstep hle) hi

/-! ## Steps -/

/-- From marked positions a step reaches whatever is related to them. -/
def Reaches (n : Nat) (f : Marks → Marks) (R : Nat → Nat → Prop) : Prop :=
  ∀ m : Marks, m.Within n → ∀ i j, m.testBit i → R i j → (f m).testBit j

section Repetition

variable {f : Marks → Marks} {R : Nat → Nat → Prop}

theorem within_of_finds (hf : Finds f R) (hR : ∀ i j, i ≤ n → R i j → j ≤ n) (hm : m.Within n) :
    (f m).Within n := by
  intro j hj
  obtain ⟨i, hi, hij⟩ := hf m j hj
  exact hR i j (hm i hi) hij

theorem ne_zero_of_testBit {i : Nat} (h : m.testBit i) : m ≠ 0 := by
  rintro rfl
  simp at h

theorem reaches_power (hreach : Reaches n f R) (hf : Finds f R)
    (hR : ∀ i j, i ≤ n → R i j → j ≤ n) (count : Nat) :
    Reaches n (Shape.power f count) (Times R count) := by
  induction count with
  | zero =>
    intro m _ i j hi hij
    cases hij
    exact hi
  | succ count ih =>
    intro m hm i j hi h
    obtain ⟨k, hstep, hrest⟩ := h
    rw [Shape.power, if_neg (ne_zero_of_testBit hi)]
    exact ih _ (within_of_finds hf hR hm) k j (hreach m hm i k hi hstep) hrest

theorem reaches_atMost (hreach : Reaches n f R) (hf : Finds f R)
    (hR : ∀ i j, i ≤ n → R i j → j ≤ n) (most : Nat) :
    Reaches n (Shape.atMost f most) fun i j => ∃ count ≤ most, Times R count i j := by
  induction most with
  | zero =>
    intro m _ i j hi h
    obtain ⟨count, hcount, hij⟩ := h
    cases Nat.le_zero.1 hcount
    cases hij
    exact hi
  | succ most ih =>
    intro m hm i j hi h
    obtain ⟨count, hcount, hij⟩ := h
    rw [Shape.atMost, if_neg (ne_zero_of_testBit hi), Nat.testBit_or, Bool.or_eq_true]
    cases count with
    | zero =>
      cases hij
      exact .inl hi
    | succ count =>
      obtain ⟨k, hstep, hrest⟩ := hij
      refine .inr (ih _ (within_of_finds hf hR hm) k j (hreach m hm i k hi hstep) ⟨count, ?_, hrest⟩)
      exact Nat.le_of_succ_le_succ hcount

/-! ## Closures -/

/-- The positions up to `n` that are not marked. -/
def missing (n : Nat) (m : Marks) : Finset Nat := (Finset.range (n + 1)).filter fun i => ¬m.testBit i

theorem mem_missing {i : Nat} : i ∈ missing n m ↔ i ≤ n ∧ ¬m.testBit i := by
  rw [missing, Finset.mem_filter, Finset.mem_range, Nat.lt_succ_iff]

/-- What a round finds was missing before and is missing no more. -/
theorem card_missing_lt {found : Marks} (hwithin : found.Within n)
    (hnew : ∀ i, found.testBit i → ¬m.testBit i) (hfound : found ≠ 0) :
    (missing n (m ||| found)).card < (missing n m).card := by
  obtain ⟨i, hi⟩ := Nat.exists_testBit_of_ne_zero hfound
  refine Finset.card_lt_card (Finset.ssubset_iff_subset_ne.2 ⟨fun j hj => ?_, fun heq => ?_⟩)
  · rw [mem_missing, Nat.testBit_or, Bool.or_eq_true, not_or] at hj
    exact mem_missing.2 ⟨hj.1, hj.2.1⟩
  · have hmem : i ∈ missing n m := mem_missing.2 ⟨hwithin i hi, hnew i hi⟩
    rw [← heq, mem_missing, Nat.testBit_or, hi, Bool.or_true] at hmem
    exact hmem.2 rfl

/-- A closure keeps what was reached and is closed under steps, provided that all that was reached
before the last round has been stepped from. -/
theorem closure_closed (hreach : Reaches n f R) (hf : Finds f R)
    (hR : ∀ i j, i ≤ n → R i j → j ≤ n) (rounds : Nat) {reached fresh : Marks}
    (hreached : reached.Within n) (hfresh : ∀ i, fresh.testBit i → reached.testBit i)
    (hdone : ∀ i j, reached.testBit i → ¬fresh.testBit i → R i j → reached.testBit j)
    (hrounds : (missing n reached).card ≤ rounds) :
    (∀ i, reached.testBit i → (Shape.closure f rounds reached fresh).testBit i) ∧
      ∀ i j, (Shape.closure f rounds reached fresh).testBit i → R i j →
        (Shape.closure f rounds reached fresh).testBit j := by
  induction rounds generalizing reached fresh with
  | zero =>
    refine ⟨fun i hi => hi, fun i j hi hij => ?_⟩
    have hnone : missing n reached = ∅ := Finset.card_eq_zero.1 (Nat.le_zero.1 hrounds)
    by_contra hj
    have hmem : j ∈ missing n reached := mem_missing.2 ⟨hR i j (hreached i hi) hij, hj⟩
    rw [hnone] at hmem
    cases hmem
  | succ rounds ih =>
    have hfreshWithin : fresh.Within n := fun i hi => hreached i (hfresh i hi)
    have hstep : ∀ i j, reached.testBit i → R i j → reached.testBit j ∨
        (Marks.minus (f fresh) reached).testBit j := by
      intro i j hi hij
      by_cases hj : reached.testBit j
      · exact .inl hj
      by_cases hold : fresh.testBit i
      · exact .inr (Marks.testBit_minus.2 ⟨hreach fresh hfreshWithin i j hold hij, hj⟩)
      · exact .inl (hdone i j hi hold hij)
    rw [Shape.closure]
    split
    · next hnone =>
      refine ⟨fun i hi => hi, fun i j hi hij => (hstep i j hi hij).resolve_right fun hj => ?_⟩
      exact ne_zero_of_testBit hj hnone
    · next hfound =>
      have hwithin : Marks.Within n (Marks.minus (f fresh) reached) := fun i hi =>
        within_of_finds hf hR hfreshWithin i (Marks.testBit_minus.1 hi).1
      have hless := card_missing_lt (m := reached) hwithin
        (fun i hi => (Marks.testBit_minus.1 hi).2) hfound
      have hmarked : ∀ i, (Marks.minus (f fresh) reached).testBit i →
          (reached ||| Marks.minus (f fresh) reached).testBit i := by
        intro i hi
        rw [Nat.testBit_or, hi, Bool.or_true]
      have hstepped : ∀ i j, (reached ||| Marks.minus (f fresh) reached).testBit i →
          ¬(Marks.minus (f fresh) reached).testBit i → R i j →
          (reached ||| Marks.minus (f fresh) reached).testBit j := by
        intro i j hi hnew hij
        rw [Nat.testBit_or, Bool.or_eq_true] at hi ⊢
        exact hstep i j (hi.resolve_right hnew) hij
      obtain ⟨hkept, hclosed⟩ :=
        ih (Marks.within_or hreached hwithin) hmarked hstepped (by omega)
      refine ⟨fun i hi => hkept i ?_, hclosed⟩
      rw [Nat.testBit_or, hi, Bool.true_or]

/-- A closure reaches whatever a number of steps reaches. -/
theorem testBit_closure_of_times (hreach : Reaches n f R) (hf : Finds f R)
    (hR : ∀ i j, i ≤ n → R i j → j ≤ n) (hm : m.Within n) {i j count : Nat} (hi : m.testBit i)
    (h : Times R count i j) : (Shape.closure f (n + 1) m m).testBit j := by
  have hcard : (missing n m).card ≤ n + 1 := by
    rw [← Finset.card_range (n + 1)]
    exact Finset.card_filter_le _ _
  obtain ⟨hkept, hclosed⟩ := closure_closed hreach hf hR (n + 1) hm (fun _ hi => hi)
    (fun _ _ hi hnot => absurd hi hnot) hcard
  have hwalk : ∀ k, (Shape.closure f (n + 1) m m).testBit k → Times R count k j →
      (Shape.closure f (n + 1) m m).testBit j := by
    clear h
    induction count with
    | zero =>
      intro k hk h
      cases h
      exact hk
    | succ count ih =>
      intro k hk h
      obtain ⟨l, hstep, hrest⟩ := h
      exact ih l (hclosed k l hk hstep) hrest
  exact hwalk i (hkept i hi) h

end Repetition

/-! ## Search -/

/-- **What a match reaches, the search reaches.** -/
theorem reaches_ends (text : List Char) (p : Shape CodeSet Look) :
    Reaches text.length ((p.map (marksOfSet text) (marksOfLook text)).ends text.length)
      (p.Matches text) := by
  induction p with
  | empty =>
    intro m _ i j hi hij
    cases hij
    exact hi
  | take s =>
    intro m _ i j hi h
    obtain ⟨rfl, hs⟩ := h
    have hset : (marksOfSet text s).testBit i := testBit_marksOfSet.2 hs
    simp [Shape.map, Shape.ends, hi, hset]
  | test l =>
    intro m _ i j hi h
    obtain ⟨rfl, hl⟩ := h
    have hlook : (marksOfLook text l).testBit i := testBit_marksOfLook.2 hl
    rw [Shape.map, Shape.ends, Nat.testBit_and, hi, hlook]
    rfl
  | cat a b iha ihb =>
    intro m hm i j hi h
    obtain ⟨k, ha, hb⟩ := h
    have hwithin := within_of_finds (finds_ends text text.length a)
      (fun _ _ hle hmatch => hmatch.le_length hle) hm
    exact ihb _ hwithin k j (iha m hm i k hi ha) hb
  | alt a b iha ihb =>
    intro m hm i j hi h
    rw [Shape.map, Shape.ends, Nat.testBit_or, Bool.or_eq_true]
    exact h.imp (iha m hm i j hi) (ihb m hm i j hi)
  | rep a min max ih =>
    intro m hm i j hi h
    obtain ⟨count, hmin, hmax, htimes⟩ := h
    have hf := finds_ends text text.length a
    have hR : ∀ i j, i ≤ text.length → a.Matches text i j → j ≤ text.length :=
      fun _ _ hle hmatch => hmatch.le_length hle
    obtain ⟨more, rfl⟩ := Nat.exists_eq_add_of_le hmin
    obtain ⟨k, hfirst, hrest⟩ := htimes.split
    have hstart := reaches_power ih hf hR min m hm i k hi hfirst
    have hwithin := within_of_finds (finds_power hf min) (fun _ _ hle h => h.le hR hle) hm
    cases max with
    | none => exact testBit_closure_of_times ih hf hR hwithin hstart hrest
    | some most =>
      refine reaches_atMost ih hf hR (most - min) _ hwithin k j hstart ⟨more, ?_, hrest⟩
      rcases hmax most rfl with h | h <;> omega

/-- **Patterns occur where they match.** -/
theorem occurs_iff {p : Shape CodeSet Look} :
    occurs p text ↔ ∃ i j, i ≤ text.length ∧ p.Matches text i j := by
  constructor
  · intro h
    obtain ⟨j, hj⟩ := Nat.exists_testBit_of_ne_zero (of_decide_eq_true h)
    obtain ⟨i, hi, hmatch⟩ := finds_ends text text.length p _ _ hj
    exact ⟨i, j, (Marks.testBit_upTo _ i).1 hi, hmatch⟩
  · rintro ⟨i, j, hi, hmatch⟩
    have hend := reaches_ends text p (Marks.upTo text.length)
      (fun k hk => (Marks.testBit_upTo _ k).1 hk) i j ((Marks.testBit_upTo _ i).2 hi) hmatch
    exact decide_eq_true (ne_zero_of_testBit hend)

end FieldSeal.Pattern

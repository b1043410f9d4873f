import FieldSeal.Mask.Masker
import FieldSeal.Proofs.Action
import FieldSeal.Proofs.Mask.Text

/-!
# What a masker accepts

**The invariant** (`Masker.Faithful`). Each pattern that a masker keeps is the one that its text
denotes. All that a masker does preserves this.

**Acceptance** (`accepts_eq_ok_true_iff`). So whether a value is accepted does not depend on what the
masker has done before: it depends on the pattern of the rule alone (`MaskRule.Accepts`).

**Masks** (`mask_answer`). A value that is not blank is validated if the rule asks for it, and then
masked in the way of its kind, with the delimiters starred. So no mask holds a delimiter, whatever the
value and the rule (`delimiter_notMem_of_mask`).
-/

namespace FieldSeal

/-- The value satisfies the pattern of the rule. -/
def MaskRule.Accepts (rule : MaskRule) (value : String) : Prop :=
  rule.pattern.isEmpty ∨ ∃ p, Pattern.compile? rule.pattern = some p ∧ p.isMatch value

namespace Masker

variable {m m' : Masker} {rule : MaskRule} {text value : String}

/-! ## Patterns -/

/-- Each pattern kept is the one that its text denotes. -/
def Faithful (m : Masker) : Prop :=
  ∀ text p, m.patterns.lookup text = some p → Pattern.compile? text = some p

theorem faithful_empty : Faithful {} := fun _ _ => nofun

/-- A masker that is faithful stays so. -/
def Keeps (m m' : Masker) : Prop := m.Faithful → m'.Faithful

instance : IsPreorder Masker Keeps where
  refl _ h := h
  trans _ _ _ h h' := h' ∘ h

theorem Faithful.cons (h : m.Faithful) {p : Pattern} (hp : Pattern.compile? text = some p) :
    Faithful { m with patterns := (text, p) :: m.patterns } := by
  intro other q hq
  by_cases hother : other = text
  · subst hother
    rw [List.lookup_cons_self] at hq
    rw [hp, hq]
  · rw [List.lookup_cons, beq_false_of_ne hother] at hq
    exact h other q hq

/-- A pattern is what its text denotes, whether it was kept or not. -/
theorem pattern_apply (h : m.Faithful) (text : String) :
    (pattern text m).1 =
        (match Pattern.compile? text with
        | some p => .ok p
        | none => .error .invalidPattern) ∧
      (pattern text m).2.Faithful := by
  unfold pattern
  cases hlookup : m.patterns.lookup text with
  | some p =>
    rw [h text p hlookup]
    exact ⟨rfl, h⟩
  | none =>
    cases hcompile : Pattern.compile? text with
    | some p => exact ⟨rfl, h.cons hcompile⟩
    | none => exact ⟨rfl, h⟩

theorem along_pattern (text : String) : Action.Along Keeps (pattern text) :=
  fun _ h => (pattern_apply h text).2

/-! ## Values -/

theorem along_accepts (rule : MaskRule) (value : String) :
    Action.Along Keeps (accepts rule value) := by
  unfold accepts
  split
  · exact Action.along_pure _
  · exact Action.along_bind (along_pattern _) fun p => Action.along_pure _

theorem along_mask (rule : MaskRule) (value : String) : Action.Along Keeps (mask rule value) := by
  have hshape : Action.Along Keeps do
      let masked ← Action.ofExcept (shape rule value)
      return Mask.starDelimiters masked :=
    Action.along_bind (Action.along_ofExcept _) fun _ => Action.along_pure _
  unfold mask
  split
  · exact Action.along_pure _
  · split
    · refine Action.along_bind (along_accepts rule value) fun accepted => ?_
      split
      · exact hshape
      · exact Action.along_bind (Action.along_throw _) fun _ => hshape
    · exact hshape

/-- **A value is accepted** if and only if it satisfies the pattern of the rule. -/
theorem accepts_eq_ok_true_iff (h : m.Faithful) :
    (accepts rule value m).1 = .ok true ↔ rule.Accepts value := by
  unfold accepts MaskRule.Accepts
  by_cases hempty : rule.pattern.isEmpty
  · simp [hempty]
  · obtain ⟨hanswer, -⟩ := pattern_apply h rule.pattern
    rw [if_neg hempty, Action.bind_answer, hanswer]
    simp only [hempty]
    cases Pattern.compile? rule.pattern with
    | none => exact ⟨nofun, nofun⟩
    | some p => simp [except_ok_bind]

/-- The past of a masker has no part in its verdicts. -/
theorem accepts_congr (hm : m.Faithful) (hm' : m'.Faithful) (rule : MaskRule) (value : String) :
    (accepts rule value m).1 = (accepts rule value m').1 := by
  unfold accepts
  split
  · rfl
  · rw [Action.bind_answer, Action.bind_answer, (pattern_apply hm _).1, (pattern_apply hm' _).1]
    rfl

/-! ## Masks -/

theorem mask_of_isBlankText (h : Unicode.isBlankText value) (rule : MaskRule) (m : Masker) :
    mask rule value m = (.ok value, m) := by
  rw [mask, if_pos h]
  rfl

/-- A value that is not blank is compared with the pattern if the rule asks for it, and then masked.
Only the first of this can change the masker. -/
theorem mask_apply (h : ¬Unicode.isBlankText value) (rule : MaskRule) (m : Masker) :
    mask rule value m =
      let verdict := if rule.mustMatch then accepts rule value m else (.ok true, m)
      (verdict.1 >>= fun accepted =>
        if accepted then (shape rule value).map Mask.starDelimiters
        else .error (.rejected rule.kind), verdict.2) := by
  have hshape : ∀ m : Masker, (do
      let masked ← Action.ofExcept (shape rule value)
      return Mask.starDelimiters masked : Step String) m =
        ((shape rule value).map Mask.starDelimiters, m) := by
    intro m
    rw [Action.bind_apply, Action.ofExcept_apply]
    cases shape rule value <;> rfl
  rw [mask, if_neg h]
  by_cases hmust : rule.mustMatch
  · rw [if_pos hmust, if_pos hmust, Action.bind_apply]
    rcases accepts rule value m with ⟨result, after⟩
    cases result with
    | error cause => rfl
    | ok accepted =>
      cases accepted with
      | true => exact hshape after
      | false => rfl
  · rw [if_neg hmust, if_neg hmust]
    exact hshape m

/-- What is answered to a value that is not blank: first the verdict counts, then the mask. -/
theorem mask_answer (h : ¬Unicode.isBlankText value) (rule : MaskRule) (m : Masker) :
    (mask rule value m).1 =
      (if rule.mustMatch then (accepts rule value m).1 else .ok true) >>= fun accepted =>
        if accepted then (shape rule value).map Mask.starDelimiters
        else .error (.rejected rule.kind) := by
  rw [mask_apply h]
  split <;> rfl

/-- The past of a masker has no part in its masks. -/
theorem mask_congr (hm : m.Faithful) (hm' : m'.Faithful) (rule : MaskRule) (value : String) :
    (mask rule value m).1 = (mask rule value m').1 := by
  by_cases h : Unicode.isBlankText value
  · rw [mask_of_isBlankText h, mask_of_isBlankText h]
  · rw [mask_answer h, mask_answer h, accepts_congr hm hm']

/-- A value that satisfies its rule is masked in the way of its kind. -/
theorem mask_of_accepts (hm : m.Faithful) (h : ¬Unicode.isBlankText value)
    (haccepts : rule.mustMatch → rule.Accepts value) :
    (mask rule value m).1 = (shape rule value).map Mask.starDelimiters := by
  rw [mask_answer h]
  by_cases hmust : rule.mustMatch
  · rw [if_pos hmust, (accepts_eq_ok_true_iff hm).2 (haccepts hmust)]
    rfl
  · rw [if_neg hmust]
    rfl

/-- A value that has to satisfy its rule and does not is rejected. -/
theorem mask_of_not_accepts (hm : m.Faithful) (h : ¬Unicode.isBlankText value)
    (hmust : rule.mustMatch) {p : Pattern} (hp : Pattern.compile? rule.pattern = some p)
    (haccepts : ¬rule.Accepts value) : (mask rule value m).1 = .error (.rejected rule.kind) := by
  have hverdict : (accepts rule value m).1 = .ok false := by
    have hempty : ¬rule.pattern.isEmpty := fun hempty => haccepts (.inl hempty)
    have hmatch : p.isMatch value = false :=
      Bool.eq_false_iff.2 fun hmatch => haccepts (.inr ⟨p, hp, hmatch⟩)
    rw [accepts, if_neg hempty, Action.bind_answer, (pattern_apply hm rule.pattern).1, hp]
    show Except.ok (p.isMatch value) = _
    rw [hmatch]
  rw [mask_answer h, if_pos hmust, hverdict]
  rfl

/-- Every mask of a value that is not blank was made in the way of the kind. -/
theorem exists_shape_of_mask (h : ¬Unicode.isBlankText value) {masked : String}
    (hmask : (mask rule value m).1 = .ok masked) :
    ∃ raw, shape rule value = .ok raw ∧ Mask.starDelimiters raw = masked := by
  rw [mask_answer h, except_bind_eq_ok_iff] at hmask
  obtain ⟨accepted, -, hmasked⟩ := hmask
  cases accepted with
  | false => cases hmasked
  | true =>
    cases hraw : shape rule value with
    | error cause =>
      rw [hraw] at hmasked
      cases hmasked
    | ok raw =>
      rw [hraw] at hmasked
      exact ⟨raw, rfl, Except.ok.inj hmasked⟩

/-- No mask holds a delimiter: a blank value has none, and in all others they were starred. -/
theorem delimiter_notMem_of_mask {masked : String} (h : (mask rule value m).1 = .ok masked) :
    Envelope.delimiter ∉ masked.toList := by
  by_cases hblank : Unicode.isBlankText value
  · rw [mask_of_isBlankText hblank] at h
    cases h
    intro hmem
    have hdelimiter := List.all_eq_true.1 hblank _ hmem
    revert hdelimiter
    decide
  · obtain ⟨raw, -, rfl⟩ := exists_shape_of_mask hblank h
    exact Mask.delimiter_notMem_starDelimiters raw

end Masker

end FieldSeal

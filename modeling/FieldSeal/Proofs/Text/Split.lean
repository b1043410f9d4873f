import FieldSeal.Text.Split

/-!
# Splitting is the inverse of joining

`splitChars_eq_iff`: the parts of a text are the only list of parts without the separator that
joined by it give the text.
-/

namespace FieldSeal.Text

theorem splitChars_of_not_mem {d : Char} {cs : List Char} (h : d ∉ cs) : splitChars d cs = [cs] := by
  induction cs with
  | nil => rfl
  | cons c rest ih =>
    rw [List.mem_cons, not_or] at h
    rw [splitChars, if_neg (Ne.symm h.1), ih h.2]

theorem splitChars_append {d : Char} {part : List Char} (h : d ∉ part) (rest : List Char) :
    splitChars d (part ++ d :: rest) = part :: splitChars d rest := by
  induction part with
  | nil => rw [List.nil_append, splitChars, if_pos rfl]
  | cons c part ih =>
    rw [List.mem_cons, not_or] at h
    rw [List.cons_append, splitChars, if_neg (Ne.symm h.1), ih h.2]

theorem not_mem_of_mem_splitChars {d : Char} {cs part : List Char}
    (h : part ∈ splitChars d cs) : d ∉ part := by
  induction cs generalizing part with
  | nil =>
    rw [splitChars, List.mem_singleton] at h
    rw [h]
    exact List.not_mem_nil
  | cons c rest ih =>
    unfold splitChars at h
    split at h
    · rcases List.mem_cons.1 h with rfl | h
      · exact List.not_mem_nil
      · exact ih h
    · next hne =>
      split at h
      · next hnil => exact absurd hnil (splitChars_ne_nil d rest)
      · next first parts hsplit =>
        rcases List.mem_cons.1 h with rfl | h
        · have hfirst : d ∉ first := ih (hsplit ▸ List.mem_cons_self)
          rw [List.mem_cons, not_or]
          exact ⟨Ne.symm hne, hfirst⟩
        · exact ih (hsplit ▸ List.mem_cons_of_mem first h)

theorem splitChars_intercalate {d : Char} {parts : List (List Char)} (hne : parts ≠ [])
    (h : ∀ part ∈ parts, d ∉ part) : splitChars d ([d].intercalate parts) = parts := by
  induction parts with
  | nil => exact absurd rfl hne
  | cons part parts ih =>
    have hpart : d ∉ part := h part List.mem_cons_self
    cases parts with
    | nil =>
      rw [List.intercalate_singleton]
      exact splitChars_of_not_mem hpart
    | cons next parts =>
      rw [List.intercalate_cons_cons, List.append_assoc, List.singleton_append,
        splitChars_append hpart,
        ih (List.cons_ne_nil next parts) fun p hp => h p (List.mem_cons_of_mem part hp)]

/-- **The parts of a text.** -/
theorem splitChars_eq_iff {d : Char} {cs : List Char} {parts : List (List Char)} :
    splitChars d cs = parts ↔
      parts ≠ [] ∧ (∀ part ∈ parts, d ∉ part) ∧ [d].intercalate parts = cs := by
  refine ⟨?_, ?_⟩
  · intro h
    obtain rfl := h
    exact ⟨splitChars_ne_nil d cs, fun part => not_mem_of_mem_splitChars,
      intercalate_splitChars d cs⟩
  · intro h
    obtain ⟨hne, h, rfl⟩ := h
    exact splitChars_intercalate hne h

end FieldSeal.Text

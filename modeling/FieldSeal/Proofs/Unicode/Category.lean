import FieldSeal.Unicode.Query

/-!
# Letters and numbers in written sets

**Reading a written set.** Whether a set holds a code point is settled by its text, read once from left
to right (`CodeSet.avoids`).

**Names.** The names `L` and `N` denote the letters and the numbers, and neither holds the underscore
(`Category.not_has_underscore`).
-/

namespace FieldSeal.Unicode

namespace CodeSet

/-! ## Reading -/

theorem contains_flatMap {α : Type} {f : α → CodeSet} {xs : List α} {n : Nat}
    (h : ∀ x ∈ xs, (f x).contains n = false) : contains (xs.flatMap f) n = false := by
  induction xs with
  | nil => rfl
  | cons x xs ih =>
    rw [List.flatMap_cons, contains_append, h x List.mem_cons_self,
      ih fun y hy => h y (List.mem_cons_of_mem x hy)]
    rfl

/-- No word of a text is a range that holds a code point. The word that is read is given backwards. -/
def avoids (n : Nat) : (word : List Char) → List Char → Bool
  | word, [] => !(ofWord word.reverse).contains n
  | word, c :: cs =>
    if c = ' ' ∨ c = '\n' then !(ofWord word.reverse).contains n && avoids n [] cs
    else avoids n (c :: word) cs

/-- The word with which a text starts, and the words behind it. -/
def split (cs : List Char) : List Char × List (List Char) :=
  cs.foldr
    (fun c (word, words) =>
      if c = ' ' ∨ c = '\n' then ([], word :: words) else (c :: word, words)) ([], [])

theorem words_eq (cs : List Char) :
    words cs = ((split cs).1 :: (split cs).2).filter (!·.isEmpty) := rfl

theorem split_cons_of_blank {c : Char} (h : c = ' ' ∨ c = '\n') (cs : List Char) :
    split (c :: cs) = ([], (split cs).1 :: (split cs).2) := if_pos h

theorem split_cons_of_not_blank {c : Char} (h : ¬(c = ' ' ∨ c = '\n')) (cs : List Char) :
    split (c :: cs) = (c :: (split cs).1, (split cs).2) := if_neg h

/-- Neither the word that was begun nor any behind it holds the code point. -/
theorem not_contains_of_avoids {n : Nat} {begun cs word : List Char} (h : avoids n begun cs)
    (hword : word ∈ (begun.reverse ++ (split cs).1) :: (split cs).2) :
    (ofWord word).contains n = false := by
  induction cs generalizing begun with
  | nil =>
    rw [List.mem_singleton.1 hword]
    simpa [avoids, split] using h
  | cons c cs ih =>
    rw [avoids] at h
    by_cases hblank : c = ' ' ∨ c = '\n'
    · rw [if_pos hblank, Bool.and_eq_true, Bool.not_eq_true'] at h
      rw [split_cons_of_blank hblank, List.append_nil] at hword
      rcases List.mem_cons.1 hword with rfl | hword
      · exact h.1
      · exact ih h.2 hword
    · rw [if_neg hblank] at h
      rw [split_cons_of_not_blank hblank] at hword
      refine ih h ?_
      rwa [List.reverse_cons, List.append_assoc]

theorem contains_ofText_of_avoids {n : Nat} {cs : List Char} (h : avoids n [] cs) :
    contains (ofText (String.ofList cs)) n = false := by
  rw [ofText, String.toList_ofList, words_eq]
  refine contains_flatMap fun word hword => ?_
  exact not_contains_of_avoids h (List.mem_filter.1 hword).1

end CodeSet

/-! ## Letters and numbers -/

namespace Category

set_option maxRecDepth 100000 in
/-- No letter and no number is the underscore. -/
theorem not_has_underscore {c : Category} (h : c ∈ letters ++ [.nd, .nl, .no]) :
    c.set.has '_' = false := by
  simp only [letters, List.cons_append, List.nil_append, List.mem_cons, List.not_mem_nil,
    or_false] at h
  rcases h with rfl | rfl | rfl | rfl | rfl | rfl | rfl | rfl
  · exact CodeSet.contains_ofText_of_avoids (by decide +kernel)
  · exact CodeSet.contains_ofText_of_avoids (by decide +kernel)
  · exact CodeSet.contains_ofText_of_avoids (by decide +kernel)
  · exact CodeSet.contains_ofText_of_avoids (by decide +kernel)
  · exact CodeSet.contains_ofText_of_avoids (by decide +kernel)
  · decide
  · exact CodeSet.contains_ofText_of_avoids (by decide +kernel)
  · exact CodeSet.contains_ofText_of_avoids (by decide +kernel)

end Category

/-! ## Names -/

theorem Query.set?_letters : (Query.name "L").set? = some (Category.setOf Category.letters) := by
  have hcanonical : canonical "L" = "l" := by decide +kernel
  have hproperty : Property.ofName? "l" = none := by decide +kernel
  rw [set?, hcanonical, ofName?, hproperty]
  rfl

theorem Query.set?_numbers : (Query.name "N").set? = some (Category.setOf [.nd, .nl, .no]) := by
  have hcanonical : canonical "N" = "n" := by decide +kernel
  have hproperty : Property.ofName? "n" = none := by decide +kernel
  rw [set?, hcanonical, ofName?, hproperty]
  rfl

end FieldSeal.Unicode

import FieldSeal.Unicode.Blank
import Mathlib.Data.List.DropRight

/-!
# Trimming

Trimming removes blanks from both ends of a text and nothing else (`surrounds_trim`), and what is left
has no blank at either end (`trimmed_trim`). These two facts determine it (`trim_of_surrounds`).

There are few blanks, and what is asked of all of them can be asked one by one (`mem_blankChars`).
-/

namespace FieldSeal.Unicode

/-- No blank stands at either end. -/
def Trimmed (cs : List Char) : Prop :=
  (∀ c ∈ cs.head?, ¬isBlank c) ∧ ∀ c ∈ cs.getLast?, ¬isBlank c

/-- The text is the core with blanks on both sides. -/
def Surrounds (text core : String) : Prop :=
  ∃ lead trail, isBlankText lead ∧ isBlankText trail ∧ text = lead ++ core ++ trail

variable {cs lead core trail : List Char}

theorem trimChars_eq (cs : List Char) :
    trimChars cs = (cs.dropWhile isBlank).rdropWhile isBlank := rfl

theorem trimmed_trimChars (cs : List Char) : Trimmed (trimChars cs) := by
  rw [trimChars_eq]
  refine ⟨fun c hc => ?_, fun c hc => ?_⟩
  · obtain ⟨rest, hrest⟩ := List.rdropWhile_prefix isBlank (cs.dropWhile isBlank)
    have hhead : (cs.dropWhile isBlank).head? = some c := by
      rw [← hrest, List.head?_append, hc, Option.some_or]
    have hnot := List.head?_dropWhile_not isBlank cs
    rw [hhead] at hnot
    simp [hnot]
  · obtain ⟨hne, rfl⟩ := List.mem_getLast?_eq_getLast hc
    exact List.rdropWhile_last_not _ _ hne

/-- What trimming removes. -/
theorem exists_blanks (cs : List Char) :
    ∃ lead trail, lead.all isBlank ∧ trail.all isBlank ∧ cs = lead ++ trimChars cs ++ trail := by
  refine ⟨cs.takeWhile isBlank, (cs.dropWhile isBlank).rtakeWhile isBlank, ?_, ?_, ?_⟩
  · exact List.all_takeWhile
  · exact List.all_eq_true.2 fun c hc => List.mem_rtakeWhile_imp hc
  · rw [trimChars_eq, List.append_assoc, List.rdropWhile_append_rtakeWhile,
      List.takeWhile_append_dropWhile]

theorem rdropWhile_of_trimmed (h : Trimmed core) : core.rdropWhile isBlank = core := by
  rw [List.rdropWhile_eq_self_iff]
  intro hne
  exact h.2 _ (List.getLast?_eq_some_getLast hne)

theorem rdropWhile_append_blanks (cs : List Char) (htrail : trail.all isBlank) :
    (cs ++ trail).rdropWhile isBlank = cs.rdropWhile isBlank := by
  induction trail using List.reverseRecOn with
  | nil => rw [List.append_nil]
  | append_singleton trail c ih =>
    rw [List.all_append, Bool.and_eq_true] at htrail
    have hc : isBlank c := by simpa using htrail.2
    rw [← List.append_assoc, List.rdropWhile_concat_pos _ _ _ hc, ih htrail.1]

theorem trimChars_append (hlead : lead.all isBlank) (htrail : trail.all isBlank)
    (h : Trimmed core) : trimChars (lead ++ core ++ trail) = core := by
  rw [trimChars_eq, List.append_assoc, List.dropWhile_append_of_pos (List.all_eq_true.1 hlead)]
  cases core with
  | nil =>
    rw [List.nil_append, List.dropWhile_eq_nil_iff.2 (List.all_eq_true.1 htrail)]
    rfl
  | cons c core =>
    rw [List.cons_append, List.dropWhile_cons_of_neg (h.1 c rfl), ← List.cons_append,
      rdropWhile_append_blanks _ htrail, rdropWhile_of_trimmed h]

/-! ## Texts -/

variable {text value : String}

theorem trimmed_trim (text : String) : Trimmed (trim text).toList := by
  rw [trim, String.toList_ofList]
  exact trimmed_trimChars text.toList

theorem surrounds_trim (text : String) : Surrounds text (trim text) := by
  obtain ⟨lead, trail, hlead, htrail, htext⟩ := exists_blanks text.toList
  refine ⟨String.ofList lead, String.ofList trail, ?_, ?_, ?_⟩
  · rwa [isBlankText, String.toList_ofList]
  · rwa [isBlankText, String.toList_ofList]
  · rw [trim, ← String.ofList_append, ← String.ofList_append, ← htext, String.ofList_toList]

/-- Trimming is all that takes blanks away. -/
theorem trim_of_surrounds (h : Surrounds value text) (htext : Trimmed text.toList) :
    trim value = text := by
  obtain ⟨lead, trail, hlead, htrail, rfl⟩ := h
  rw [trim, String.toList_append, String.toList_append, trimChars_append hlead htrail htext,
    String.ofList_toList]

theorem trim_trim (text : String) : trim (trim text) = trim text :=
  trim_of_surrounds ⟨"", "", rfl, rfl, by simp⟩ (trimmed_trim text)

theorem trim_eq_empty_iff : trim text = "" ↔ isBlankText text := by
  refine ⟨fun h => ?_, fun h => ?_⟩
  · obtain ⟨lead, trail, hlead, htrail, htext⟩ := surrounds_trim text
    rw [h] at htext
    rw [htext, isBlankText, String.toList_append, String.toList_append, List.all_append,
      List.all_append]
    simp [isBlankText] at hlead htrail ⊢
    exact ⟨hlead, htrail⟩
  · exact trim_of_surrounds ⟨text, "", h, rfl, by simp⟩ ⟨nofun, nofun⟩

/-! ## The blanks one by one -/

/-- The characters in the ranges of blanks. -/
def blankChars : List Char :=
  blanks.flatMap fun r => (List.range' r.1 (r.2 + 1 - r.1)).map Char.ofNat

theorem mem_blankChars {c : Char} (h : isBlank c) : c ∈ blankChars := by
  obtain ⟨r, hr, hc⟩ := List.any_eq_true.1 h
  simp only [Bool.and_eq_true, decide_eq_true_eq] at hc
  refine List.mem_flatMap.2 ⟨r, hr, List.mem_map.2 ⟨c.toNat, ?_, Char.ofNat_toNat c⟩⟩
  rw [List.mem_range'_1]
  omega

end FieldSeal.Unicode

import FieldSeal.Mask.Text
import FieldSeal.Proofs.Action
import Mathlib.Data.List.TakeWhile

/-!
# What masks are made of

**Position** (`index_eq_ok_iff`). A text is masked by position if it has more characters than are to
stay visible. The mask has the length of the text and as many stars as characters are hidden.

**Addresses** (`email_eq_ok_iff`). An address is masked if it has exactly one at sign, with something
on either side of it.

**Delimiters** (`delimiter_notMem_starDelimiters`). Whatever was masked, no mask holds the delimiter of
envelopes.
-/

namespace FieldSeal.Mask

variable {cs masked : List Char} {keepStart keepEnd : Nat}

/-! ## By position -/

/-- The number of characters that stay visible, as far as a rule can count. -/
def kept (keepStart keepEnd : Nat) : Nat := min (keepStart + keepEnd) countLimit

theorem kept_eq (h : keepStart + keepEnd ≤ countLimit) :
    kept keepStart keepEnd = keepStart + keepEnd := Nat.min_eq_left h

/-- Stars in place of what is hidden. -/
def starred (keepStart keepEnd : Nat) (cs : List Char) : List Char :=
  cs.take keepStart ++ List.replicate (cs.length - kept keepStart keepEnd) '*' ++
    cs.drop (cs.length - keepEnd)

theorem indexChars_of_lt (h : kept keepStart keepEnd < cs.length) :
    indexChars keepStart keepEnd cs = .ok (starred keepStart keepEnd cs) :=
  if_neg (Nat.not_le.2 h)

theorem indexChars_of_le (h : cs.length ≤ kept keepStart keepEnd) :
    indexChars keepStart keepEnd cs = .error (.tooShort (kept keepStart keepEnd) cs.length) :=
  if_pos h

theorem star_mem_starred (h : kept keepStart keepEnd < cs.length) :
    '*' ∈ starred keepStart keepEnd cs := by
  refine List.mem_append_left _ (List.mem_append_right _ ?_)
  exact List.mem_replicate.2 ⟨Nat.sub_ne_zero_of_lt h, rfl⟩

theorem length_starred (hlimit : keepStart + keepEnd ≤ countLimit)
    (h : keepStart + keepEnd ≤ cs.length) : (starred keepStart keepEnd cs).length = cs.length := by
  rw [starred, kept_eq hlimit, List.length_append, List.length_append, List.length_take,
    List.length_replicate, List.length_drop]
  omega

/-- As many characters are starred as are hidden, if the text itself has no star. -/
theorem count_star_starred (hcs : '*' ∉ cs) :
    (starred keepStart keepEnd cs).count '*' = cs.length - kept keepStart keepEnd := by
  have hstart : (cs.take keepStart).count '*' = 0 :=
    List.count_eq_zero.2 fun h => hcs (List.mem_of_mem_take h)
  have hend : (cs.drop (cs.length - keepEnd)).count '*' = 0 :=
    List.count_eq_zero.2 fun h => hcs (List.mem_of_mem_drop h)
  rw [starred, List.count_append, List.count_append, hstart, hend, List.count_replicate_self]
  omega

/-- A mask holds nothing but stars and characters of the text. -/
theorem mem_of_mem_starred {c : Char} (h : c ∈ starred keepStart keepEnd cs) : c = '*' ∨ c ∈ cs := by
  rcases List.mem_append.1 h with h | h
  · rcases List.mem_append.1 h with h | h
    · exact .inr (List.mem_of_mem_take h)
    · exact .inl (List.eq_of_mem_replicate h)
  · exact .inr (List.mem_of_mem_drop h)

section Index

variable {text raw : String}

theorem index_of_not_isBlankText (h : ¬Unicode.isBlankText text) (keepStart keepEnd : Nat) :
    index text keepStart keepEnd = (indexChars keepStart keepEnd text.toList).map String.ofList :=
  if_neg h

theorem index_of_lt (h : ¬Unicode.isBlankText text)
    (hlt : kept keepStart keepEnd < text.toList.length) :
    index text keepStart keepEnd = .ok (String.ofList (starred keepStart keepEnd text.toList)) := by
  rw [index_of_not_isBlankText h, indexChars_of_lt hlt]
  rfl

theorem index_of_le (h : ¬Unicode.isBlankText text)
    (hle : text.toList.length ≤ kept keepStart keepEnd) :
    index text keepStart keepEnd =
      .error (.tooShort (kept keepStart keepEnd) text.toList.length) := by
  rw [index_of_not_isBlankText h, indexChars_of_le hle]
  rfl

theorem index_eq_ok_iff (h : ¬Unicode.isBlankText text) :
    index text keepStart keepEnd = .ok raw ↔
      kept keepStart keepEnd < text.toList.length ∧
        String.ofList (starred keepStart keepEnd text.toList) = raw := by
  by_cases hlt : kept keepStart keepEnd < text.toList.length
  · rw [index_of_lt h hlt, Except.ok.injEq]
    exact ⟨fun hraw => ⟨hlt, hraw⟩, And.right⟩
  · rw [index_of_le h (Nat.not_lt.1 hlt)]
    exact ⟨nofun, fun hraw => absurd hraw.1 hlt⟩

/-- A name that is masked has two characters or more, and is masked by position. -/
theorem index_of_name (hraw : name text = .ok raw) :
    2 ≤ text.toList.length ∧
      index text (keepOfName text.toList.length).1 (keepOfName text.toList.length).2 = .ok raw := by
  unfold name at hraw
  split at hraw
  · cases hraw
  · next hle => exact ⟨Nat.not_lt.1 hle, hraw⟩

end Index

/-! ## Addresses -/

/-- The local part of an address as its mask shows it: a star for a single character, else the first
ones and five stars, however many there are. -/
def hiddenLocal (front : List Char) : List Char :=
  front.take (shownOfLocal front.length) ++
    List.replicate (if shownOfLocal front.length = 0 then 1 else 5) '*'

theorem star_mem_hiddenLocal (front : List Char) : '*' ∈ hiddenLocal front := by
  refine List.mem_append_right _ (List.mem_replicate.2 ⟨?_, rfl⟩)
  split <;> decide

section Email

variable {text raw : String} {front domain : List Char}

/-- What is masked is split at the first at sign. -/
theorem email_of_append (htext : text.toList = front ++ '@' :: domain) (hfront : '@' ∉ front) :
    email text =
      if front.isEmpty ∨ domain.isEmpty ∨ '@' ∈ domain then .error .invalidEmail
      else .ok (String.ofList (hiddenLocal front ++ '@' :: domain)) := by
  have hne : ∀ c ∈ front, decide (c ≠ '@') = true := fun c hc =>
    decide_eq_true fun h => hfront (h ▸ hc)
  have htake : (front ++ '@' :: domain).takeWhile (· ≠ '@') = front := by
    rw [List.takeWhile_append_of_pos hne, List.takeWhile_cons_of_neg (by decide), List.append_nil]
  have hdrop : (front ++ '@' :: domain).dropWhile (· ≠ '@') = '@' :: domain := by
    rw [List.dropWhile_append_of_pos hne, List.dropWhile_cons_of_neg (by decide)]
  rw [email, emailChars, htext, htake, hdrop]
  dsimp only
  split <;> rfl

theorem email_of_notMem (h : '@' ∉ text.toList) : email text = .error .invalidEmail := by
  have hdrop : text.toList.dropWhile (· ≠ '@') = [] :=
    List.dropWhile_eq_nil_iff.2 fun c hc => decide_eq_true fun hat => h (hat ▸ hc)
  rw [email, emailChars, hdrop]
  rfl

theorem email_eq_ok_iff :
    email text = .ok raw ↔ ∃ front domain, text.toList = front ++ '@' :: domain ∧ '@' ∉ front ∧
      front ≠ [] ∧ domain ≠ [] ∧ '@' ∉ domain ∧
      String.ofList (hiddenLocal front ++ '@' :: domain) = raw := by
  constructor
  · intro h
    by_cases hat : '@' ∈ text.toList
    · obtain ⟨front, domain, htext, hfront⟩ := List.eq_append_cons_of_mem hat
      rw [email_of_append htext hfront] at h
      split at h
      · cases h
      · next hsides =>
        simp only [List.isEmpty_iff, not_or] at hsides
        exact ⟨front, domain, htext, hfront, hsides.1, hsides.2.1, hsides.2.2, Except.ok.inj h⟩
    · rw [email_of_notMem hat] at h
      cases h
  · rintro ⟨front, domain, htext, hfront, hfront', hdomain, hat, rfl⟩
    rw [email_of_append htext hfront, if_neg]
    simp [hfront', hdomain, hat]

end Email

/-! ## Delimiters -/

theorem toList_starDelimiters (text : String) :
    (starDelimiters text).toList =
      text.toList.map fun c => if c = Envelope.delimiter then '*' else c :=
  String.toList_ofList

theorem delimiter_notMem_starDelimiters (text : String) :
    Envelope.delimiter ∉ (starDelimiters text).toList := by
  rw [toList_starDelimiters, List.mem_map]
  rintro ⟨c, -, hc⟩
  split at hc
  · revert hc
    decide
  · contradiction

theorem star_mem_starDelimiters {text : String} (h : '*' ∈ text.toList) :
    '*' ∈ (starDelimiters text).toList := by
  rw [toList_starDelimiters]
  exact List.mem_map.2 ⟨'*', h, by decide⟩

/-- What holds no delimiter stays as it is. -/
theorem map_starDelimiter (h : Envelope.delimiter ∉ cs) :
    cs.map (fun c => if c = Envelope.delimiter then '*' else c) = cs := by
  have hsame : ∀ c ∈ cs, (if c = Envelope.delimiter then '*' else c) = c := by
    intro c hc
    refine if_neg ?_
    rintro rfl
    exact h hc
  rw [List.map_congr_left hsame, List.map_id']

theorem starDelimiters_of_notMem {text : String} (h : Envelope.delimiter ∉ text.toList) :
    starDelimiters text = text := by
  rw [starDelimiters, map_starDelimiter h, String.ofList_toList]

/-- An end that holds no delimiter is still the end. -/
theorem suffix_starDelimiters {text : String} (hcs : cs <:+ text.toList)
    (h : Envelope.delimiter ∉ cs) : cs <:+ (starDelimiters text).toList := by
  have hmap := hcs.map fun c => if c = Envelope.delimiter then '*' else c
  rwa [map_starDelimiter h, ← toList_starDelimiters] at hmap

end FieldSeal.Mask

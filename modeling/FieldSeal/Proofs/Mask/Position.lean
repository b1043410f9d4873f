import FieldSeal.Proofs.Mask.Text
import Mathlib.Data.Nat.PSub

/-!
# What a mask by position shows

**Theorem (`Mask.exactly_the_inside_is_starred`).** A text that is not blank is masked by position
exactly if it has more characters than are to stay visible, whatever numbers are asked for. The mask
agrees with the text at either end and has stars in between.

**Ranges.** The numbers come unchecked from outside, and their sum is cut at the largest number
that a machine word holds. This is enough: in the whole computation no part of a text is taken that
reaches over its end, and nothing is subtracted from less (`index?_eq`). To say so, `index?` does
the same with operations that have no result out of range.

All rests on one fact: for a text whose characters a machine word can count, as it can those of
every text in a memory, the cut makes no difference (`kept_lt_iff`).
-/

namespace FieldSeal.Mask

variable {cs : List Char} {keepStart keepEnd : Nat}

/-! ## The cut sum -/

theorem kept_lt_iff (h : cs.length ≤ countLimit) :
    kept keepStart keepEnd < cs.length ↔ keepStart + keepEnd < cs.length := by
  rw [kept]
  omega

/-- Where something is to be hidden, no sum was cut. -/
theorem kept_eq_of_lt (h : cs.length ≤ countLimit) (hlt : kept keepStart keepEnd < cs.length) :
    kept keepStart keepEnd = keepStart + keepEnd := by
  have hsum := (kept_lt_iff h).1 hlt
  exact kept_eq (Nat.le_of_lt (Nat.lt_of_lt_of_le hsum h))

/-! ## Ranges -/

/-- The first `n` characters of a text that has so many. -/
def take? (n : Nat) (cs : List Char) : Option (List Char) :=
  if n ≤ cs.length then some (cs.take n) else none

/-- What is behind the first `n` characters of a text that has so many. -/
def drop? (n : Nat) (cs : List Char) : Option (List Char) :=
  if n ≤ cs.length then some (cs.drop n) else none

/-- `indexChars` by operations without a result out of range. -/
def indexChars? (keepStart keepEnd : Nat) (cs : List Char) :
    Option (Except MaskError (List Char)) :=
  let keep := kept keepStart keepEnd
  if cs.length ≤ keep then some (.error (.tooShort keep cs.length))
  else do
    let start ← take? keepStart cs
    let hidden ← Nat.psub cs.length keep
    let shown ← Nat.psub cs.length keepEnd
    let rest ← drop? shown cs
    return .ok (start ++ List.replicate hidden '*' ++ rest)

/-- `index` by operations without a result out of range. -/
def index? (text : String) (keepStart keepEnd : Nat) : Option (Except MaskError String) :=
  if Unicode.isBlankText text then some (.ok text)
  else (indexChars? keepStart keepEnd text.toList).map (Except.map String.ofList)

theorem take?_of_le {n : Nat} (h : n ≤ cs.length) : take? n cs = some (cs.take n) := if_pos h

theorem drop?_of_le {n : Nat} (h : n ≤ cs.length) : drop? n cs = some (cs.drop n) := if_pos h

theorem indexChars?_eq (h : cs.length ≤ countLimit) :
    indexChars? keepStart keepEnd cs = some (indexChars keepStart keepEnd cs) := by
  by_cases hle : cs.length ≤ kept keepStart keepEnd
  · rw [indexChars_of_le hle]
    exact if_pos hle
  · have hlt := Nat.not_le.1 hle
    -- Nothing was cut from the sum, so each of the two numbers is smaller than the length.
    have hkept := kept_eq_of_lt h hlt
    have hstart : keepStart ≤ cs.length := by omega
    have hend : keepEnd ≤ cs.length := by omega
    have hrest : cs.length - keepEnd ≤ cs.length := Nat.sub_le _ _
    rw [indexChars_of_lt hlt, indexChars?, if_neg hle, take?_of_le hstart,
      Nat.psub_eq_sub (Nat.le_of_lt hlt), Nat.psub_eq_sub hend]
    simp only [bind, Option.bind_some, drop?_of_le hrest]
    rfl

theorem index?_eq {text : String} (h : text.toList.length ≤ countLimit) :
    index? text keepStart keepEnd = some (index text keepStart keepEnd) := by
  unfold index? index
  split
  · rfl
  · rw [indexChars?_eq h]
    rfl

/-! ## Places -/

/-- What stands where: the text at the ends, stars in between, nothing behind. -/
theorem getElem?_starred (hkept : kept keepStart keepEnd = keepStart + keepEnd)
    (h : keepStart + keepEnd ≤ cs.length) (i : Nat) :
    (starred keepStart keepEnd cs)[i]? =
      if i < keepStart ∨ cs.length ≤ i + keepEnd then cs[i]? else some '*' := by
  have hstart : (cs.take keepStart).length = keepStart := List.length_take_of_le (by omega)
  have hinside : (cs.take keepStart ++
      List.replicate (cs.length - kept keepStart keepEnd) '*').length = cs.length - keepEnd := by
    rw [List.length_append, hstart, List.length_replicate, hkept]
    omega
  rw [starred]
  by_cases hlow : i < keepStart
  · rw [if_pos (.inl hlow), List.getElem?_append_left (by omega),
      List.getElem?_append_left (by omega), List.getElem?_take_of_lt hlow]
  by_cases hhigh : cs.length ≤ i + keepEnd
  · rw [if_pos (.inr hhigh), List.getElem?_append_right (by omega), hinside, List.getElem?_drop]
    congr 1
    omega
  · rw [if_neg (by omega), List.getElem?_append_left (by omega),
      List.getElem?_append_right (by omega), hstart, List.getElem?_replicate, if_pos]
    omega

/-- **Exactly the inside is starred.** Take a text whose characters a machine word can count, and
any numbers of characters that are to stay visible at its ends. Masking it leaves no range on the
way. If the text is not blank, it has a mask just when it has more characters than the numbers add
up to, and is too short else. The mask is as long as the text, agrees with it at both ends, and has
a star everywhere else. -/
theorem exactly_the_inside_is_starred (text : String) (keepStart keepEnd : Nat)
    (hsize : text.toList.length ≤ countLimit) :
    index? text keepStart keepEnd = some (index text keepStart keepEnd) ∧
    (¬Unicode.isBlankText text →
      ((∃ masked, index text keepStart keepEnd = .ok masked) ↔
        keepStart + keepEnd < text.toList.length) ∧
      (text.toList.length ≤ keepStart + keepEnd →
        index text keepStart keepEnd =
          .error (.tooShort (kept keepStart keepEnd) text.toList.length)) ∧
      ∀ masked, index text keepStart keepEnd = .ok masked →
        masked.toList.length = text.toList.length ∧
        ∀ i, masked.toList[i]? =
          if i < keepStart ∨ text.toList.length ≤ i + keepEnd then text.toList[i]?
          else some '*') := by
  refine ⟨index?_eq hsize, fun hblank => ⟨?_, ?_, ?_⟩⟩
  · rw [← kept_lt_iff hsize]
    constructor
    · rintro ⟨masked, hmasked⟩
      exact ((index_eq_ok_iff hblank).1 hmasked).1
    · intro hlt
      exact ⟨_, index_of_lt hblank hlt⟩
  · intro hle
    refine index_of_le hblank (Nat.not_lt.1 fun hlt => ?_)
    exact Nat.not_lt.2 hle ((kept_lt_iff hsize).1 hlt)
  · intro masked hmasked
    obtain ⟨hlt, rfl⟩ := (index_eq_ok_iff hblank).1 hmasked
    have hsum := (kept_lt_iff hsize).1 hlt
    rw [String.toList_ofList]
    exact ⟨length_starred (Nat.le_trans (Nat.le_of_lt hsum) hsize) (Nat.le_of_lt hsum),
      getElem?_starred (kept_eq_of_lt hsize hlt) (Nat.le_of_lt hsum)⟩

/-- A text of five characters, in fifteen bytes, and the largest numbers that can be asked for. -/
theorem five_characters_are_counted :
    let text := "王小明同学"
    text.toList.length ≤ countLimit ∧ ¬Unicode.isBlankText text ∧
      index text 1 2 = .ok "王**同学" ∧ "王**同学".toList[2]? = some '*' ∧
      index? text 1 2 = some (.ok "王**同学") ∧
      index text countLimit countLimit = .error (.tooShort countLimit 5) ∧
      index? text countLimit countLimit = some (.error (.tooShort countLimit 5)) := by
  intro text
  have hlength : text.toList.length = 5 := by decide +kernel
  have hsize : text.toList.length ≤ countLimit := by decide +kernel
  have hblank : ¬Unicode.isBlankText text := by decide +kernel
  have hmask : index text 1 2 = .ok "王**同学" := by decide +kernel
  have hcut : kept countLimit countLimit = countLimit := Nat.min_eq_right (Nat.le_add_left _ _)
  obtain ⟨hrange, hexact⟩ := exactly_the_inside_is_starred text 1 2 hsize
  obtain ⟨hrange', hexact'⟩ := exactly_the_inside_is_starred text countLimit countLimit hsize
  have hshort := (hexact' hblank).2.1 (Nat.le_add_right_of_le hsize)
  have hstar := ((hexact hblank).2.2 _ hmask).2 2
  rw [hlength] at hstar
  rw [hcut, hlength] at hshort
  exact ⟨hsize, hblank, hmask, hstar, hmask ▸ hrange, hshort, hshort ▸ hrange'⟩

end FieldSeal.Mask

import FieldSeal.Proofs.Mask.Shape
import FieldSeal.Proofs.Mask.Text
import FieldSeal.Proofs.Pattern.Extent
import FieldSeal.Proofs.Pattern.Start
import FieldSeal.Proofs.Unicode.Blank

/-!
# Which accepted values can be masked

**Lengths** (`exists_extent_of_accepts`). The patterns of the catalog are anchored on both sides, so
that the length of an accepted value is that of a match. By position a value is masked if this is more
than its kind leaves visible (`mask_of_lt`), and refused if not (`mask_of_le`).

**Addresses** (`exists_parts_of_accepts`). An accepted address has one at sign with something on either
side of it. Behind the at sign there is no delimiter, so that the mask ends as the address does
(`mask_address`).
-/

namespace FieldSeal.SensitiveKind

open Pattern Unicode Mask

variable {kind : SensitiveKind} {text : String}

/-! ## Accepted values -/

theorem fromStart_shape (kind : SensitiveKind) : kind.shape.fromStart := by cases kind <;> rfl

theorem toEnd_shape (kind : SensitiveKind) : kind.shape.toEnd := by cases kind <;> rfl

theorem exists_extent_of_accepts (hkind : kind ≠ custom) (h : (MaskRule.ofKind kind).Accepts text) :
    ∃ e ∈ kind.shape.extents, e.Admits text.toList.length :=
  exists_extent_of_occurs ((accepts_iff hkind).1 h) kind.fromStart_shape kind.toEnd_shape

/-- Where there are no alternatives, the length lies between two bounds. -/
theorem admits_of_accepts (hkind : kind ≠ custom) (h : (MaskRule.ofKind kind).Accepts text)
    {e : Extent} (hextents : kind.shape.extents = [e]) : e.Admits text.toList.length := by
  obtain ⟨other, hother, hadmits⟩ := exists_extent_of_accepts hkind h
  rw [hextents, List.mem_singleton] at hother
  rwa [hother] at hadmits

theorem length_bankCard (h : (MaskRule.ofKind bankCard).Accepts text) :
    13 ≤ text.toList.length ∧ text.toList.length ≤ 19 :=
  Extent.admits_between.1 (admits_of_accepts (by decide) h (by decide))

theorem length_citizenId (h : (MaskRule.ofKind citizenId).Accepts text) :
    text.toList.length = 15 ∨ text.toList.length = 18 := by
  obtain ⟨e, he, hadmits⟩ := exists_extent_of_accepts (by decide) h
  have hextents : citizenId.shape.extents = [⟨15, some 15⟩, ⟨18, some 18⟩] := by decide
  rw [hextents] at he
  simp only [List.mem_cons, List.not_mem_nil, or_false] at he
  rcases he with rfl | rfl
  · obtain ⟨hleast, hmost⟩ := Extent.admits_between.1 hadmits
    exact .inl (Nat.le_antisymm hmost hleast)
  · obtain ⟨hleast, hmost⟩ := Extent.admits_between.1 hadmits
    exact .inr (Nat.le_antisymm hmost hleast)

theorem length_mobilePhone (h : (MaskRule.ofKind mobilePhone).Accepts text) :
    text.toList.length = 11 := by
  obtain ⟨hleast, hmost⟩ :=
    Extent.admits_between.1 (admits_of_accepts (e := ⟨11, some 11⟩) (by decide) h (by decide))
  exact Nat.le_antisymm hmost hleast

theorem length_telephone (h : (MaskRule.ofKind telephone).Accepts text) :
    7 ≤ text.toList.length ∧ text.toList.length ≤ 20 :=
  Extent.admits_between.1 (admits_of_accepts (by decide) h (by decide))

theorem length_englishName (h : (MaskRule.ofKind englishName).Accepts text) :
    2 ≤ text.toList.length :=
  Extent.admits_from.1 (admits_of_accepts (by decide) h (by decide))

theorem notMem_of_accepts (hkind : kind ≠ custom) (h : (MaskRule.ofKind kind).Accepts text)
    {c : Char} (hc : kind.shape.avoids c) : c ∉ text.toList :=
  notMem_of_occurs ((accepts_iff hkind).1 h) kind.fromStart_shape kind.toEnd_shape hc

theorem least_pos (hkind : kind ≠ custom) : ∀ e ∈ kind.shape.extents, 0 < e.least := by
  cases kind with
  | custom => exact absurd rfl hkind
  | _ => decide

theorem excludes_blanks (hkind : kind ≠ custom) : blankChars.all kind.shape.excludes := by
  cases kind with
  | custom => exact absurd rfl hkind
  | _ => decide +kernel

/-- No accepted value is blank: none is empty, and none begins with a blank. -/
theorem not_isBlankText_of_accepts (hkind : kind ≠ custom)
    (h : (MaskRule.ofKind kind).Accepts text) : ¬isBlankText text := by
  intro hblank
  cases htext : text.toList with
  | nil =>
    obtain ⟨e, he, hleast, -⟩ := exists_extent_of_accepts hkind h
    rw [htext] at hleast
    exact absurd hleast (Nat.not_le.2 (least_pos hkind e he))
  | cons c rest =>
    rw [isBlankText, htext, List.all_cons, Bool.and_eq_true] at hblank
    have hoccurs := (accepts_iff hkind).1 h
    rw [htext] at hoccurs
    have hexcludes := List.all_eq_true.1 (excludes_blanks hkind) c (mem_blankChars hblank.1)
    exact not_occurs_of_excludes hexcludes rest hoccurs

/-! ## By position -/

/-- Values of the kind are validated, and masked by position. -/
def byPosition : SensitiveKind → Bool
  | chineseName | email | custom => false
  | _ => true

/-- The number of characters that masks of the kind leave visible. -/
def visible (kind : SensitiveKind) : Nat := kind.keepStart + kind.keepEnd

theorem ne_custom_of_byPosition (h : kind.byPosition) : kind ≠ custom := by
  rintro rfl
  cases h

theorem visible_le_countLimit (kind : SensitiveKind) : kind.visible ≤ countLimit := by
  cases kind <;> decide

theorem shape_of_byPosition (h : kind.byPosition) (text : String) :
    Masker.shape (.ofKind kind) text = index text kind.keepStart kind.keepEnd := by
  cases kind with
  | chineseName | email | custom => cases h
  | _ => rfl

section Masks

variable {m : Masker}

/-- What an accepted value is masked to does not depend on the masker. -/
theorem mask_of_accepts (hm : m.Faithful) (hkind : kind ≠ custom)
    (h : (MaskRule.ofKind kind).Accepts text) :
    (Masker.mask (.ofKind kind) text m).1 =
      (Masker.shape (.ofKind kind) text).map starDelimiters :=
  Masker.mask_of_accepts hm (not_isBlankText_of_accepts hkind h) fun _ => h

/-- A value that is longer than what its mask leaves visible. -/
theorem mask_of_lt (hm : m.Faithful) (hkind : kind.byPosition)
    (h : (MaskRule.ofKind kind).Accepts text) (hlt : kind.visible < text.toList.length) :
    (Masker.mask (.ofKind kind) text m).1 =
      .ok (starDelimiters (String.ofList (starred kind.keepStart kind.keepEnd text.toList))) := by
  have hcustom := ne_custom_of_byPosition hkind
  have hkept : kept kind.keepStart kind.keepEnd < text.toList.length := by
    rwa [kept_eq kind.visible_le_countLimit]
  rw [mask_of_accepts hm hcustom h, shape_of_byPosition hkind,
    index_of_lt (not_isBlankText_of_accepts hcustom h) hkept]
  rfl

/-- A value of which nothing would be hidden. -/
theorem mask_of_le (hm : m.Faithful) (hkind : kind.byPosition)
    (h : (MaskRule.ofKind kind).Accepts text) (hle : text.toList.length ≤ kind.visible) :
    (Masker.mask (.ofKind kind) text m).1 =
      .error (.tooShort kind.visible text.toList.length) := by
  have hcustom := ne_custom_of_byPosition hkind
  have hkept : kept kind.keepStart kind.keepEnd = kind.visible := kept_eq kind.visible_le_countLimit
  rw [mask_of_accepts hm hcustom h, shape_of_byPosition hkind,
    index_of_le (not_isBlankText_of_accepts hcustom h) (hkept ▸ hle), hkept]
  rfl

/-- A value of a kind whose values have neither stars nor delimiters: the mask has its length, and one
star for each hidden character. -/
theorem exists_mask_of_plain (hm : m.Faithful) (hkind : kind.byPosition)
    (h : (MaskRule.ofKind kind).Accepts text) (hlt : kind.visible < text.toList.length)
    (hstar : kind.shape.avoids '*') (hdelimiter : kind.shape.avoids Envelope.delimiter) :
    ∃ masked, (Masker.mask (.ofKind kind) text m).1 = .ok masked ∧
      masked.toList.length = text.toList.length ∧
      masked.toList.count '*' = text.toList.length - kind.visible := by
  have hcustom := ne_custom_of_byPosition hkind
  have hplain : Envelope.delimiter ∉ starred kind.keepStart kind.keepEnd text.toList := by
    intro hmem
    rcases mem_of_mem_starred hmem with hstar | htext
    · revert hstar
      decide
    · exact notMem_of_accepts hcustom h hdelimiter htext
  refine ⟨String.ofList (starred kind.keepStart kind.keepEnd text.toList), ?_, ?_, ?_⟩
  · rw [mask_of_lt hm hkind h hlt, starDelimiters_of_notMem (by rwa [String.toList_ofList])]
  · rw [String.toList_ofList]
    exact length_starred kind.visible_le_countLimit (Nat.le_of_lt hlt)
  · rw [String.toList_ofList, count_star_starred (notMem_of_accepts hcustom h hstar),
      kept_eq kind.visible_le_countLimit]
    rfl

end Masks

/-! ## Addresses -/

namespace Email

/-- The pattern in front of the at sign. -/
def front : Shape CodeSet Look :=
  .cat (.rep (.take atom) 1 none)
    (.rep (.cat (.take (.single '.')) (.rep (.take atom) 1 none)) 0 none)

/-- The pattern behind the at sign. -/
def host : Shape CodeSet Look :=
  .cat (.rep (.cat (.take alnum) (.cat labelEnd (.take (.single '.')))) 1 none)
    (.cat (.take alnum) (.cat labelEnd (.test .textEnd)))

/-- A match of the pattern has the at sign between its two parts. -/
theorem exists_matches {cs : List Char} (h : occurs shape cs) :
    ∃ k, front.Matches cs 0 k ∧ cs[k]? = some '@' ∧ host.Matches cs (k + 1) cs.length := by
  -- The pattern associates to the right: what stands in front of the at sign is not a part of it.
  obtain ⟨_, ⟨rfl, -⟩, _, hempty, i, hatoms, k, hmore, _, ⟨rfl, c, hc, hat⟩, hhost⟩ :=
    matches_of_occurs h (fromStart_shape email) (toEnd_shape email)
  cases hempty
  refine ⟨k, ⟨i, hatoms, hmore⟩, ?_, hhost⟩
  rw [CodeSet.has_single] at hat
  rw [hc, hat]

end Email

/-- **The parts of an address**: neither of them is empty or has an at sign, and the second one has no
delimiter. -/
theorem exists_parts_of_accepts (h : (MaskRule.ofKind email).Accepts text) :
    ∃ front domain, text.toList = front ++ '@' :: domain ∧ '@' ∉ front ∧ front ≠ [] ∧
      domain ≠ [] ∧ '@' ∉ domain ∧ Envelope.delimiter ∉ domain := by
  obtain ⟨k, hfront, hat, hhost⟩ := Email.exists_matches ((accepts_iff (by decide)).1 h)
  obtain ⟨n, hn, hleast, -⟩ := hfront.extent
  obtain ⟨n', hn', hleast', -⟩ := hhost.extent
  have hfrontLeast : Email.front.extent.least = 1 := by decide
  have hhostLeast : Email.host.extent.least = 3 := by decide
  obtain ⟨hk, hgetElem⟩ := List.getElem?_eq_some_iff.1 hat
  refine ⟨text.toList.take k, text.toList.drop (k + 1), ?_, ?_, ?_, ?_, ?_, ?_⟩
  · rw [← hgetElem, ← List.drop_eq_getElem_cons hk, List.take_append_drop]
  · have hnot := hfront.notMem (by decide : Email.front.avoids '@')
    rwa [List.drop_zero] at hnot
  · rw [← List.length_pos_iff, List.length_take]
    omega
  · rw [← List.length_pos_iff, List.length_drop]
    omega
  · have hnot := hhost.notMem (by decide : Email.host.avoids '@')
    rwa [List.take_length] at hnot
  · have hnot := hhost.notMem (by decide : Email.host.avoids Envelope.delimiter)
    rwa [List.take_length] at hnot

/-- The mask of an address, by its parts. -/
theorem mask_of_parts {m : Masker} {front domain : List Char} (hm : m.Faithful)
    (h : (MaskRule.ofKind email).Accepts text) (htext : text.toList = front ++ '@' :: domain)
    (hat : '@' ∉ front) (hfront : front ≠ []) (hdomain : domain ≠ []) (hat' : '@' ∉ domain) :
    (Masker.mask (.ofKind email) text m).1 =
      .ok (starDelimiters (String.ofList (hiddenLocal front ++ '@' :: domain))) := by
  have hshape : Masker.shape (.ofKind email) text =
      .ok (String.ofList (hiddenLocal front ++ '@' :: domain)) :=
    email_eq_ok_iff.2 ⟨front, domain, htext, hat, hfront, hdomain, hat', rfl⟩
  rw [mask_of_accepts hm (by decide) h, hshape]
  rfl

/-- An address is masked, and its mask ends as the address does. -/
theorem mask_address {m : Masker} (hm : m.Faithful) (h : (MaskRule.ofKind email).Accepts text) :
    ∃ front domain masked, text.toList = front ++ '@' :: domain ∧ '@' ∉ domain ∧
      (Masker.mask (.ofKind email) text m).1 = .ok masked ∧ '@' :: domain <:+ masked.toList := by
  obtain ⟨front, domain, htext, hat, hfront, hdomain, hat', hdelimiter⟩ := exists_parts_of_accepts h
  refine ⟨front, domain, _, htext, hat', mask_of_parts hm h htext hat hfront hdomain hat', ?_⟩
  refine suffix_starDelimiters ?_ ?_
  · rw [String.toList_ofList]
    exact List.suffix_append _ _
  · rintro (_ | ⟨_, hmem⟩)
    exact hdelimiter hmem

end FieldSeal.SensitiveKind

import FieldSeal.Proofs.Masker

/-!
# Masks do not depend on what they hide

**Theorem (`Masker.masks_show_the_visible_alone`).** Of a value that is not blank, a mask shows the ends
that its rule leaves visible, the length, and of an address the domain and how the local part begins.
Two values that agree in this have the same mask (`MaskRule.SameVisible`), and every mask hides
something.

Each way of masking makes a text of visible parts and stars (`Mask.starred`, `Mask.hiddenLocal`). The
stars depend on lengths alone, and of local parts not even on these, but for three classes of them.
-/

namespace FieldSeal

namespace Mask

variable {cs ds : List Char} {keepStart keepEnd : Nat} {text raw : String}

/-! ## What stays visible -/

/-- The texts have the same length and the same characters at both ends. -/
def SameEnds (keepStart keepEnd : Nat) (cs ds : List Char) : Prop :=
  cs.length = ds.length ∧ cs.take keepStart = ds.take keepStart ∧
    cs.drop (cs.length - keepEnd) = ds.drop (ds.length - keepEnd)

/-- The same for names: how much stays visible depends on how long they are. -/
def SameName (cs ds : List Char) : Prop :=
  cs.length = 2 ∧ SameEnds 1 0 cs ds ∨ cs.length = 3 ∧ SameEnds 1 1 cs ds ∨
    4 ≤ cs.length ∧ SameEnds 2 1 cs ds

/-- The local parts have one character both, or begin with the same two or the same four. -/
def SameLocal (front front' : List Char) : Prop :=
  front.length = 1 ∧ front'.length = 1 ∨
    (2 ≤ front.length ∧ front.length ≤ 4) ∧ (2 ≤ front'.length ∧ front'.length ≤ 4) ∧
      front.take 2 = front'.take 2 ∨
    5 ≤ front.length ∧ 5 ≤ front'.length ∧ front.take 4 = front'.take 4

/-- The addresses have the same domain, behind the first at sign. -/
def SameAddress (cs ds : List Char) : Prop :=
  ∃ front front' domain, cs = front ++ '@' :: domain ∧ ds = front' ++ '@' :: domain ∧
    '@' ∉ front ∧ '@' ∉ front' ∧ SameLocal front front'

/-! ## Masks of the same -/

theorem SameEnds.starred_eq (h : SameEnds keepStart keepEnd cs ds) :
    starred keepStart keepEnd cs = starred keepStart keepEnd ds := by
  obtain ⟨hlength, hstart, hend⟩ := h
  rw [starred, starred, hstart, hend, hlength]

theorem SameName.sameEnds (h : SameName cs ds) :
    SameEnds (keepOfName cs.length).1 (keepOfName cs.length).2 cs ds := by
  rcases h with ⟨htwo, hends⟩ | ⟨hthree, hends⟩ | ⟨hmore, hends⟩
  · rw [htwo]
    exact hends
  · rw [hthree]
    exact hends
  · have hkeep : keepOfName cs.length = (2, 1) := by
      rw [keepOfName, if_neg (by omega), if_neg (by omega)]
    rw [hkeep]
    exact hends

theorem SameLocal.hiddenLocal_eq {front front' : List Char} (h : SameLocal front front') :
    hiddenLocal front = hiddenLocal front' := by
  rcases h with ⟨hone, hone'⟩ | ⟨hfew, hfew', htake⟩ | ⟨hmany, hmany', htake⟩
  · have hshown : ∀ n, n = 1 → shownOfLocal n = 0 := by
      rintro n rfl
      rfl
    simp only [hiddenLocal, hshown _ hone, hshown _ hone', List.take_zero]
  · have hshown : ∀ n, 2 ≤ n ∧ n ≤ 4 → shownOfLocal n = 2 := by
      rintro n ⟨hlow, hhigh⟩
      rw [shownOfLocal, if_neg (by omega), if_pos hhigh]
    simp only [hiddenLocal, hshown _ hfew, hshown _ hfew', htake]
  · have hshown : ∀ n, 5 ≤ n → shownOfLocal n = 4 := by
      intro n hn
      rw [shownOfLocal, if_neg (by omega), if_neg (by omega)]
    simp only [hiddenLocal, hshown _ hmany, hshown _ hmany', htake]

/-! ## Two values -/

variable {text' raw' : String}

theorem eq_of_sameEnds (h : ¬Unicode.isBlankText text) (h' : ¬Unicode.isBlankText text')
    (hsame : SameEnds keepStart keepEnd text.toList text'.toList)
    (hraw : index text keepStart keepEnd = .ok raw)
    (hraw' : index text' keepStart keepEnd = .ok raw') : raw = raw' := by
  rw [← ((index_eq_ok_iff h).1 hraw).2, ← ((index_eq_ok_iff h').1 hraw').2, hsame.starred_eq]

theorem eq_of_sameName (h : ¬Unicode.isBlankText text) (h' : ¬Unicode.isBlankText text')
    (hsame : SameName text.toList text'.toList) (hraw : name text = .ok raw)
    (hraw' : name text' = .ok raw') : raw = raw' := by
  have hindex := (index_of_name hraw).2
  have hindex' := (index_of_name hraw').2
  rw [← hsame.sameEnds.1] at hindex'
  exact eq_of_sameEnds h h' hsame.sameEnds hindex hindex'

theorem eq_of_sameAddress (hsame : SameAddress text.toList text'.toList)
    (hraw : email text = .ok raw) (hraw' : email text' = .ok raw') : raw = raw' := by
  obtain ⟨front, front', domain, htext, htext', hfront, hfront', hlocal⟩ := hsame
  rw [email_of_append htext hfront] at hraw
  rw [email_of_append htext' hfront'] at hraw'
  split at hraw
  · cases hraw
  · split at hraw'
    · cases hraw'
    · cases hraw
      cases hraw'
      rw [hlocal.hiddenLocal_eq]

/-! ## Stars -/

theorem star_mem_of_index (h : ¬Unicode.isBlankText text)
    (hraw : index text keepStart keepEnd = .ok raw) : '*' ∈ raw.toList := by
  obtain ⟨hlt, rfl⟩ := (index_eq_ok_iff h).1 hraw
  rw [String.toList_ofList]
  exact star_mem_starred hlt

theorem star_mem_of_email (hraw : email text = .ok raw) : '*' ∈ raw.toList := by
  obtain ⟨front, domain, -, -, -, -, -, rfl⟩ := email_eq_ok_iff.1 hraw
  rw [String.toList_ofList]
  exact List.mem_append_left _ (star_mem_hiddenLocal front)

end Mask

/-- What the rule leaves visible of two texts is the same. -/
def MaskRule.SameVisible (rule : MaskRule) (cs ds : List Char) : Prop :=
  match rule.kind with
  | .email => Mask.SameAddress cs ds
  | .chineseName => Mask.SameName cs ds
  | _ => Mask.SameEnds rule.keepStart rule.keepEnd cs ds

namespace Masker

variable {rule : MaskRule} {value value' raw raw' masked : String} {m : Masker}

theorem shape_eq_of_sameVisible (h : ¬Unicode.isBlankText value) (h' : ¬Unicode.isBlankText value')
    (hsame : rule.SameVisible value.toList value'.toList) (hraw : shape rule value = .ok raw)
    (hraw' : shape rule value' = .ok raw') : raw = raw' := by
  unfold shape at hraw hraw'
  unfold MaskRule.SameVisible at hsame
  cases hkind : rule.kind with
  | email =>
    rw [hkind] at hraw hraw' hsame
    exact Mask.eq_of_sameAddress hsame hraw hraw'
  | chineseName =>
    rw [hkind] at hraw hraw' hsame
    exact Mask.eq_of_sameName h h' hsame hraw hraw'
  | _ =>
    rw [hkind] at hraw hraw' hsame
    exact Mask.eq_of_sameEnds h h' hsame hraw hraw'

theorem star_mem_of_shape (h : ¬Unicode.isBlankText value) (hraw : shape rule value = .ok raw) :
    '*' ∈ raw.toList := by
  unfold shape at hraw
  split at hraw
  · exact Mask.star_mem_of_index h (Mask.index_of_name hraw).2
  · exact Mask.star_mem_of_email hraw
  · exact Mask.star_mem_of_index h hraw

theorem star_mem_of_mask (h : ¬Unicode.isBlankText value)
    (hmask : (mask rule value m).1 = .ok masked) : '*' ∈ masked.toList := by
  obtain ⟨raw, hraw, rfl⟩ := exists_shape_of_mask h hmask
  exact Mask.star_mem_starDelimiters (star_mem_of_shape h hraw)

/-- **Masks show the visible alone.** Let two values that are not blank be masked under the same rule,
by maskers in any state. If what the rule leaves visible of them is the same, then so are the masks. For
addresses this is the domain and how the local part begins, for Chinese names as much as their length
allows, and for all other kinds the ends that the rule asks for and the length. Each of the masks has a
star. -/
theorem masks_show_the_visible_alone (rule : MaskRule) (m m' : Masker)
    (value value' masked masked' : String) (h : ¬Unicode.isBlankText value)
    (h' : ¬Unicode.isBlankText value') (hmask : (mask rule value m).1 = .ok masked)
    (hmask' : (mask rule value' m').1 = .ok masked') :
    (rule.SameVisible value.toList value'.toList → masked = masked') ∧ '*' ∈ masked.toList ∧
      '*' ∈ masked'.toList := by
  refine ⟨fun hsame => ?_, star_mem_of_mask h hmask, star_mem_of_mask h' hmask'⟩
  obtain ⟨raw, hraw, rfl⟩ := exists_shape_of_mask h hmask
  obtain ⟨raw', hraw', rfl⟩ := exists_shape_of_mask h' hmask'
  rw [shape_eq_of_sameVisible h h' hsame hraw hraw']

/-- Two addresses whose local parts differ behind the fourth character, and in their lengths. -/
theorem long_local_parts_look_alike :
    let rule : MaskRule :=
      { kind := .email, keepStart := 3, keepEnd := 4, pattern := "", mustMatch := true }
    ∃ masked masked', (mask rule "alice@x.org" {}).1 = .ok masked ∧
      (mask rule "alic|a.b@x.org" {}).1 = .ok masked' ∧
      rule.SameVisible "alice@x.org".toList "alic|a.b@x.org".toList ∧
      masked = masked' ∧ '*' ∈ masked.toList := by
  intro rule
  obtain ⟨masked, hmask⟩ := except_isOk_iff.1
    (by decide +kernel : (mask rule "alice@x.org" {}).1.isOk)
  obtain ⟨masked', hmask'⟩ := except_isOk_iff.1
    (by decide +kernel : (mask rule "alic|a.b@x.org" {}).1.isOk)
  have hsame : rule.SameVisible "alice@x.org".toList "alic|a.b@x.org".toList :=
    ⟨"alice".toList, "alic|a.b".toList, "x.org".toList, by decide, by decide, by decide, by decide,
      .inr (.inr (by decide))⟩
  obtain ⟨heq, hstar, -⟩ := masks_show_the_visible_alone rule {} {} _ _ _ _ (by decide) (by decide)
    hmask hmask'
  exact ⟨masked, masked', hmask, hmask', hsame, heq hsame, hstar⟩

end Masker

end FieldSeal

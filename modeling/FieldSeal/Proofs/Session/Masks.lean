import FieldSeal.Proofs.Mask.Accepted
import FieldSeal.Proofs.Session.Plain
import FieldSeal.Proofs.Session.Protect

/-!
# Accepted values and their masks

**Identifiers and addresses** (`accepted_values_are_masked`). The shortest bank card, citizen's number
and mobile number is longer than what its mask leaves visible, and every address has the two parts that
its mask needs. So whatever satisfies one of these patterns can be masked.

**Telephone numbers and names** (`longer_values_are_protected`). Here the shortest accepted values are
as long as what their masks would leave visible. These values alone cannot be masked, since no
character of them would be hidden (`shortest_values_are_too_short`).
-/

namespace FieldSeal.Session

/-- **Accepted values are masked.** Let a codec be given whose masker is new, and let anything be asked
of it. Then every value that satisfies the pattern of bank cards, citizens' numbers, mobile numbers or
addresses is masked.

- The masks of the first three are as long as the values. Of a bank card between 3 and 9 characters are
  starred, of a citizen's number 5 or 8, and of a mobile number 4.
- The mask of an address ends with its at sign and what stands behind it, where there is no other at
  sign. -/
theorem accepted_values_are_masked (service : Service) (session : Session) :
    let m := (session.run { service }).masker
    (∀ text, (MaskRule.ofKind .bankCard).Accepts text → ∃ masked,
      (Masker.mask (.ofKind .bankCard) text m).1 = .ok masked ∧
        masked.toList.length = text.toList.length ∧
        3 ≤ masked.toList.count '*' ∧ masked.toList.count '*' ≤ 9) ∧
    (∀ text, (MaskRule.ofKind .citizenId).Accepts text → ∃ masked,
      (Masker.mask (.ofKind .citizenId) text m).1 = .ok masked ∧
        masked.toList.length = text.toList.length ∧
        (masked.toList.count '*' = 5 ∨ masked.toList.count '*' = 8)) ∧
    (∀ text, (MaskRule.ofKind .mobilePhone).Accepts text → ∃ masked,
      (Masker.mask (.ofKind .mobilePhone) text m).1 = .ok masked ∧
        masked.toList.length = text.toList.length ∧ masked.toList.count '*' = 4) ∧
    ∀ text, (MaskRule.ofKind .email).Accepts text → ∃ front domain masked,
      text.toList = front ++ '@' :: domain ∧ '@' ∉ domain ∧
        (Masker.mask (.ofKind .email) text m).1 = .ok masked ∧
        '@' :: domain <:+ masked.toList := by
  intro m
  have hm : m.Faithful := keeps_run session { service } Masker.faithful_empty
  refine ⟨fun text h => ?bankCard, fun text h => ?citizenId, fun text h => ?mobilePhone,
    fun text h => SensitiveKind.mask_address hm h⟩
  case bankCard =>
    obtain ⟨hleast, hmost⟩ := SensitiveKind.length_bankCard h
    have hvisible : SensitiveKind.bankCard.visible = 10 := rfl
    obtain ⟨masked, hmask, hlength, hcount⟩ := SensitiveKind.exists_mask_of_plain hm rfl h
      (by omega) (by decide) (by decide)
    exact ⟨masked, hmask, hlength, by omega, by omega⟩
  case citizenId =>
    have hlengths := SensitiveKind.length_citizenId h
    have hvisible : SensitiveKind.citizenId.visible = 10 := rfl
    obtain ⟨masked, hmask, hlength, hcount⟩ := SensitiveKind.exists_mask_of_plain hm rfl h
      (by omega) (by decide) (by decide)
    exact ⟨masked, hmask, hlength, by omega⟩
  case mobilePhone =>
    have heleven := SensitiveKind.length_mobilePhone h
    have hvisible : SensitiveKind.mobilePhone.visible = 7 := rfl
    obtain ⟨masked, hmask, hlength, hcount⟩ := SensitiveKind.exists_mask_of_plain hm rfl h
      (by omega) (by decide) (by decide)
    exact ⟨masked, hmask, hlength, by omega⟩

/-- A bank card whose digits are of another script, both forms of citizens' numbers, a mobile number, and
an address with a delimiter and a letter that folds to an ASCII one. -/
theorem accepted_values_of_each_kind :
    let m := (run [⟨_, .pattern "("⟩]
      { service := .standard (.always .gm) .fresh ⟨⟨fun _ => 0, 0⟩, []⟩ }).masker
    (∃ masked, (Masker.mask (.ofKind .bankCard) "6٢٢٢٠٢١٢٣٤٥٦٧" m).1 = .ok masked ∧
      3 ≤ masked.toList.count '*') ∧
    (∃ masked, (Masker.mask (.ofKind .citizenId) "110105491231002" m).1 = .ok masked ∧
      (masked.toList.count '*' = 5 ∨ masked.toList.count '*' = 8)) ∧
    (∃ masked, (Masker.mask (.ofKind .citizenId) "11010519491231002X" m).1 = .ok masked ∧
      (masked.toList.count '*' = 5 ∨ masked.toList.count '*' = 8)) ∧
    (∃ masked, (Masker.mask (.ofKind .mobilePhone) "13812345678" m).1 = .ok masked ∧
      masked.toList.count '*' = 4) ∧
    ∃ domain masked, (Masker.mask (.ofKind .email) "a|b@ſite.cc" m).1 = .ok masked ∧
      '@' :: domain <:+ masked.toList := by
  obtain ⟨hcard, hcitizen, hmobile, haddress⟩ := accepted_values_are_masked
    (.standard (.always .gm) .fresh ⟨⟨fun _ => 0, 0⟩, []⟩) [⟨_, .pattern "("⟩]
  obtain ⟨masked₁, hmask₁, -, hcount₁, -⟩ := hcard "6٢٢٢٠٢١٢٣٤٥٦٧"
    ((SensitiveKind.accepts_iff (by decide)).2 (by decide +kernel))
  obtain ⟨masked₂, hmask₂, -, hcount₂⟩ := hcitizen "110105491231002"
    ((SensitiveKind.accepts_iff (by decide)).2 (by decide +kernel))
  obtain ⟨masked₃, hmask₃, -, hcount₃⟩ := hcitizen "11010519491231002X"
    ((SensitiveKind.accepts_iff (by decide)).2 (by decide +kernel))
  obtain ⟨masked₄, hmask₄, -, hcount₄⟩ := hmobile "13812345678"
    ((SensitiveKind.accepts_iff (by decide)).2 (by decide +kernel))
  obtain ⟨-, domain, masked₅, -, -, hmask₅, hend⟩ := haddress "a|b@ſite.cc"
    ((SensitiveKind.accepts_iff (by decide)).2 (by decide +kernel))
  exact ⟨⟨masked₁, hmask₁, hcount₁⟩, ⟨masked₂, hmask₂, hcount₂⟩, ⟨masked₃, hmask₃, hcount₃⟩,
    ⟨masked₄, hmask₄, hcount₄⟩, ⟨domain, masked₅, hmask₅, hend⟩⟩

/-- **Longer values are protected.** Let a codec be given whose masker is new, and let anything be asked
of it. A value that satisfies the pattern of telephone numbers has 7 characters at least, and one that
satisfies that of English names has 2, as many as their masks leave visible.

- A value of this length is not masked, and so not protected: nothing of it would be hidden.
- A longer one is masked, and protecting it answers what sealing it does, with the mask behind the
  envelope. -/
theorem longer_values_are_protected (service : Service) (session : Session) (kind : SensitiveKind)
    (keep : Nat)
    (hkind : kind = .telephone ∧ keep = 7 ∨ kind = .englishName ∧ keep = 2) (text : String)
    (h : (MaskRule.ofKind kind).Accepts text) :
    let c := session.run { service }
    keep ≤ text.toList.length ∧
    (text.toList.length = keep →
      (Masker.mask (.ofKind kind) text c.masker).1 = .error (.tooShort keep keep) ∧
      (Codec.protect (.ofKind kind) text c).1 = .error (.mask (.tooShort keep keep))) ∧
    (keep < text.toList.length → ∃ masked,
      (Masker.mask (.ofKind kind) text c.masker).1 = .ok masked ∧
      (Codec.protect (.ofKind kind) text c).1 =
        ((Service.encrypt text c.service).1.map (·.toWire ++ masked)).mapError .envelope) := by
  intro c
  have hm : c.masker.Faithful := keeps_run session { service } Masker.faithful_empty
  have hposition : kind.byPosition := by
    rcases hkind with ⟨rfl, -⟩ | ⟨rfl, -⟩ <;> rfl
  have hvisible : kind.visible = keep := by
    rcases hkind with ⟨rfl, rfl⟩ | ⟨rfl, rfl⟩ <;> rfl
  have hkeep : keep ≤ text.toList.length := by
    rcases hkind with ⟨rfl, rfl⟩ | ⟨rfl, rfl⟩
    · exact (SensitiveKind.length_telephone h).1
    · exact SensitiveKind.length_englishName h
  refine ⟨hkeep, fun hlength => ?_, fun hlt => ?_⟩
  · have hmask := SensitiveKind.mask_of_le hm hposition h (by omega)
    rw [hvisible, hlength] at hmask
    exact ⟨hmask, Codec.protect_eq_mask_error_iff.2 hmask⟩
  · have hmask := SensitiveKind.mask_of_lt hm hposition h (by omega)
    have hvalue : text ≠ "" := by
      rintro rfl
      exact Nat.not_lt_zero _ hlt
    exact ⟨_, hmask, (Codec.protect_of_mask hvalue hmask).1⟩

/-- A telephone number with an area code, and a name of three letters. -/
theorem number_with_area_code_is_protected :
    let c := run [⟨_, .mask (.ofKind .telephone) "x"⟩]
      { service := .standard (.always .gm) .fresh ⟨⟨fun _ => 0, 0⟩, []⟩ }
    (MaskRule.ofKind .telephone).Accepts "010-1234567" ∧
      (MaskRule.ofKind .englishName).Accepts "Amy" ∧
      (∃ masked, (Masker.mask (.ofKind .telephone) "010-1234567" c.masker).1 = .ok masked) ∧
      ∃ masked, (Masker.mask (.ofKind .englishName) "Amy" c.masker).1 = .ok masked := by
  have hnumber : (MaskRule.ofKind .telephone).Accepts "010-1234567" :=
    (SensitiveKind.accepts_iff (by decide)).2 (by decide +kernel)
  have hname : (MaskRule.ofKind .englishName).Accepts "Amy" :=
    (SensitiveKind.accepts_iff (by decide)).2 (by decide +kernel)
  obtain ⟨-, -, hlonger⟩ := longer_values_are_protected
    (.standard (.always .gm) .fresh ⟨⟨fun _ => 0, 0⟩, []⟩) [⟨_, .mask (.ofKind .telephone) "x"⟩]
    .telephone 7 (.inl ⟨rfl, rfl⟩) "010-1234567" hnumber
  obtain ⟨-, -, hlonger'⟩ := longer_values_are_protected
    (.standard (.always .gm) .fresh ⟨⟨fun _ => 0, 0⟩, []⟩) [⟨_, .mask (.ofKind .telephone) "x"⟩]
    .englishName 2 (.inr ⟨rfl, rfl⟩) "Amy" hname
  obtain ⟨masked, hmask, -⟩ := hlonger (by decide)
  obtain ⟨masked', hmask', -⟩ := hlonger' (by decide)
  exact ⟨hnumber, hname, ⟨masked, hmask⟩, masked', hmask'⟩

/-- A telephone number of seven digits and a name of two letters satisfy their patterns, and yet they
cannot be masked. -/
theorem shortest_values_are_too_short :
    (MaskRule.ofKind .telephone).Accepts "1234567" ∧
      (Masker.mask (.ofKind .telephone) "1234567" {}).1 = .error (.tooShort 7 7) ∧
      (MaskRule.ofKind .englishName).Accepts "Al" ∧
      (Masker.mask (.ofKind .englishName) "Al" {}).1 = .error (.tooShort 2 2) := by
  have hnumber : (MaskRule.ofKind .telephone).Accepts "1234567" :=
    (SensitiveKind.accepts_iff (by decide)).2 (by decide +kernel)
  have hname : (MaskRule.ofKind .englishName).Accepts "Al" :=
    (SensitiveKind.accepts_iff (by decide)).2 (by decide +kernel)
  exact ⟨hnumber, SensitiveKind.mask_of_le Masker.faithful_empty rfl hnumber (by decide), hname,
    SensitiveKind.mask_of_le Masker.faithful_empty rfl hname (by decide)⟩

end FieldSeal.Session

import FieldSeal.Proofs.Sealer.Obstacle

/-!
# What a changed nonce does to a GM envelope

**Theorem (`changed_nonce_changes_first_block`).** The tag of a GM envelope does not cover its nonce.
An envelope whose nonce was xored with a mask is opened as if the padded text had been: its first
sixteen bytes are xored with the mask (`Cbc.alter`), and all others are as they were.

**Where the padding lies.** With a block of text or more, the padding is behind the first block and
stays, so that the text keeps its length. A shorter text and its padding share the one block that
there is. Hence whoever knows the text can turn it into any other short text, and can spoil its padding.

**Padding.** What removal takes off is described without reference to it (`Padding.Fills`): one to
sixteen bytes that each hold their number.
-/

namespace FieldSeal

/-! ## Exclusive or on bytes -/

theorem xorBytes_assoc (xs ys zs : List UInt8) :
    xorBytes (xorBytes xs ys) zs = xorBytes xs (xorBytes ys zs) := by
  induction xs generalizing ys zs with
  | nil => rfl
  | cons x xs ih =>
    cases ys with
    | nil => rfl
    | cons y ys =>
      cases zs with
      | nil => rfl
      | cons z zs =>
        show (x ^^^ y ^^^ z) :: xorBytes (xorBytes xs ys) zs =
          (x ^^^ (y ^^^ z)) :: xorBytes xs (xorBytes ys zs)
        rw [UInt8.xor_assoc, ih]

theorem xorBytes_cancel {xs ys : List UInt8} (h : ys.length ≤ xs.length) :
    xorBytes xs (xorBytes xs ys) = ys := by
  induction ys generalizing xs with
  | nil => rw [xorBytes, xorBytes, List.zipWith_nil_right, List.zipWith_nil_right]
  | cons y ys ih =>
    cases xs with
    | nil => cases h
    | cons x xs =>
      show (x ^^^ (x ^^^ y)) :: xorBytes xs (xorBytes xs ys) = y :: ys
      rw [← UInt8.xor_assoc, UInt8.xor_self, UInt8.zero_xor, ih (Nat.le_of_succ_le_succ h)]

/-! ## Padding -/

namespace Padding

/-- The byte string is the text and behind it one to sixteen bytes that each hold their number. -/
def Fills (text bytes : List UInt8) : Prop :=
  ∃ k, 0 < k ∧ k ≤ 16 ∧ bytes = text ++ List.replicate k (UInt8.ofNat k)

variable {text bytes : List UInt8}

theorem fills_pad (text : List UInt8) : Fills text (pad text) :=
  ⟨16 - text.length % 16, by omega, by omega, rfl⟩

theorem unpad?_eq_some_iff : unpad? bytes = some text ↔ Fills text bytes := by
  constructor
  · intro h
    unfold unpad? at h
    split at h
    · cases h
    · next last _ =>
      simp only [Option.ite_none_right_eq_some, Option.some.injEq, List.all_eq_true,
        beq_iff_eq] at h
      obtain ⟨⟨hpos, hle, hlen, hall⟩, rfl⟩ := h
      have htail : bytes.drop (bytes.length - last.toNat) = List.replicate last.toNat last := by
        refine List.eq_replicate_iff.2 ⟨?_, hall⟩
        rw [List.length_drop]
        omega
      refine ⟨last.toNat, hpos, hle, ?_⟩
      rw [UInt8.ofNat_toNat, ← htail, List.take_append_drop]
  · rintro ⟨k, hpos, hle, rfl⟩
    exact unpad?_append_replicate text hpos hle

/-- A zero at the end is no padding. -/
theorem not_fills_of_getLast? (h : bytes.getLast? = some 0) (text : List UInt8) :
    ¬Fills text bytes := by
  rintro ⟨k, hpos, hle, rfl⟩
  rw [List.getLast?_append, List.getLast?_replicate, if_neg (by omega)] at h
  have hzero := congrArg UInt8.toNat (Option.some.inj h)
  rw [UInt8.toNat_ofNat', UInt8.toNat_zero] at hzero
  omega

end Padding

/-! ## The first block -/

namespace Cbc

variable {key start text sealed mask bytes : List UInt8}

/-- The byte string with its first sixteen bytes xored with a mask. -/
def alter (mask bytes : List UInt8) : List UInt8 := xorBytes (bytes.take 16) mask ++ bytes.drop 16

theorem length_alter (hmask : mask.length = 16) (bytes : List UInt8) :
    (alter mask bytes).length = bytes.length := by
  rw [alter, List.length_append, length_xorBytes, List.length_take, List.length_drop]
  omega

/-- All that follows the first block stays. -/
theorem drop_alter (hmask : mask.length = 16) (hbytes : 16 ≤ bytes.length) :
    (alter mask bytes).drop 16 = bytes.drop 16 := by
  refine List.drop_left' ?_
  rw [length_xorBytes, List.length_take]
  omega

/-- A single block becomes what the mask makes of it. -/
theorem alter_of_block (hbytes : bytes.length = 16) (other : List UInt8)
    (hother : other.length = 16) : alter (xorBytes bytes other) bytes = other := by
  rw [alter, List.take_of_length_le (Nat.le_of_eq hbytes),
    List.drop_of_length_le (Nat.le_of_eq hbytes), List.append_nil]
  exact xorBytes_cancel (Nat.le_of_eq (hother.trans hbytes.symm))

/-- Padding that lies behind the first block stays. -/
theorem alter_pad (hmask : mask.length = 16) (htext : 16 ≤ text.length) :
    alter mask (Padding.pad text) = Padding.pad (alter mask text) := by
  rw [Padding.pad, Padding.pad, length_alter hmask, alter, alter,
    List.take_append_of_le_length htext, List.drop_append_of_le_length htext, List.append_assoc]

theorem decrypt?_of_altered_start (h : encrypt? key start text = some sealed)
    (hstart : start.length = 16) (hmask : mask.length = 16) :
    decrypt? key (xorBytes start mask) sealed =
      Padding.unpad? (alter mask (Padding.pad text)) := by
  have hother : (xorBytes start mask).length = 16 := by
    rw [length_xorBytes, hstart, hmask, Nat.min_self]
  have hmasks : mask.length ≤ start.length := Nat.le_of_eq (hmask.trans hstart.symm)
  rw [decrypt?_of_other_start h hother, xorBytes_assoc, xorBytes_cancel hmasks, alter]

end Cbc

/-! ## Envelopes -/

namespace Sealer

variable {pair : KeyPair} {text other : String} {e : Envelope} {entropy after : Entropy}
  {mask : List UInt8}

/-- Bytes that are no text are a failure of the cipher. -/
theorem textOf_eq_cipher_iff {suite : Suite} {bytes : Option (List UInt8)} :
    textOf suite bytes = .error (.cipher suite) ↔ ∀ text, bytes ≠ some (Utf8.encode text) := by
  rw [meets_textOf suite bytes]
  constructor
  · intro h
    obtain ⟨o, ho, hpresent, -⟩ := h.exists_mem
    cases List.mem_singleton.1 ho
    exact hpresent
  · intro h
    exact .here (o := ⟨∀ text, bytes ≠ some (Utf8.encode text), _⟩) h

namespace Gm

theorem decrypt_of_altered_nonce (h : encrypt pair text entropy = (.ok e, after))
    (hmask : mask.length = 16) :
    decrypt pair { e with nonce := xorBytes e.nonce mask } =
      textOf .gm (Padding.unpad? (Cbc.alter mask (Padding.pad (Utf8.encode text)))) := by
  obtain ⟨-, hsuite, hnonce, key, mac, hkeys, hciphertext, htag⟩ := encrypt_eq_ok_iff.1 h
  have hstart : e.nonce.length = 16 := by
    rw [hnonce, Entropy.length_draw]
    rfl
  have hform : (xorBytes e.nonce mask).length = Suite.gm.nonceLength := by
    rw [length_xorBytes, hstart, hmask]
    rfl
  rw [decrypt_of_form (e := { e with nonce := xorBytes e.nonce mask }) hsuite hform hkeys,
    if_neg (not_not_intro htag), Cbc.decrypt?_of_altered_start hciphertext hstart hmask]

/-- A text comes out exactly if it is what removal of the padding leaves. -/
theorem decrypt_of_altered_nonce_eq_ok_iff (h : encrypt pair text entropy = (.ok e, after))
    (hmask : mask.length = 16) :
    decrypt pair { e with nonce := xorBytes e.nonce mask } = .ok other ↔
      Padding.Fills (Utf8.encode other) (Cbc.alter mask (Padding.pad (Utf8.encode text))) := by
  rw [decrypt_of_altered_nonce h hmask, textOf_eq_ok_iff, Padding.unpad?_eq_some_iff]

/-- And without such a text the cipher fails. -/
theorem decrypt_of_altered_nonce_eq_cipher_iff (h : encrypt pair text entropy = (.ok e, after))
    (hmask : mask.length = 16) :
    decrypt pair { e with nonce := xorBytes e.nonce mask } = .error (.cipher .gm) ↔
      ∀ other, ¬Padding.Fills (Utf8.encode other)
        (Cbc.alter mask (Padding.pad (Utf8.encode text))) := by
  rw [decrypt_of_altered_nonce h hmask, textOf_eq_cipher_iff]
  exact forall_congr' fun other => not_congr Padding.unpad?_eq_some_iff

theorem decrypt_of_altered_nonce_ne_tampered (h : encrypt pair text entropy = (.ok e, after))
    (hmask : mask.length = 16) (suite : Suite) :
    decrypt pair { e with nonce := xorBytes e.nonce mask } ≠ .error (.tampered suite) := by
  rw [decrypt_of_altered_nonce h hmask]
  unfold textOf
  split <;> exact nofun

/-- The text of a block or more that comes out is the one that was sealed, its first block xored with
the mask. -/
theorem eq_alter_of_decrypt (h : encrypt pair text entropy = (.ok e, after))
    (hmask : mask.length = 16) (htext : 16 ≤ (Utf8.encode text).length)
    (hother : decrypt pair { e with nonce := xorBytes e.nonce mask } = .ok other) :
    Utf8.encode other = Cbc.alter mask (Utf8.encode text) := by
  rw [decrypt_of_altered_nonce_eq_ok_iff h hmask, Cbc.alter_pad hmask htext,
    ← Padding.unpad?_eq_some_iff, Padding.unpad?_pad, Option.some.injEq] at hother
  exact hother.symm

theorem length_pad_of_short (htext : (Utf8.encode text).length < 16) :
    (Padding.pad (Utf8.encode text)).length = 16 := by
  rw [Padding.length_pad]
  omega

/-- A text of less than a block can be turned into any other. -/
theorem exists_mask_of_short (h : encrypt pair text entropy = (.ok e, after))
    (htext : (Utf8.encode text).length < 16) (hother : (Utf8.encode other).length < 16) :
    ∃ mask, mask.length = 16 ∧
      decrypt pair { e with nonce := xorBytes e.nonce mask } = .ok other := by
  have hblock := length_pad_of_short htext
  have hblock' := length_pad_of_short hother
  have hmask : (xorBytes (Padding.pad (Utf8.encode text))
      (Padding.pad (Utf8.encode other))).length = 16 := by
    rw [length_xorBytes, hblock, hblock', Nat.min_self]
  refine ⟨_, hmask, (decrypt_of_altered_nonce_eq_ok_iff h hmask).2 ?_⟩
  rw [Cbc.alter_of_block hblock _ hblock']
  exact Padding.fills_pad _

/-- The padding of a text of less than a block can be spoiled. -/
theorem exists_mask_of_no_padding (htext : (Utf8.encode text).length < 16) :
    ∃ mask, mask.length = 16 ∧ ∀ bytes,
      ¬Padding.Fills bytes (Cbc.alter mask (Padding.pad (Utf8.encode text))) := by
  have hblock := length_pad_of_short htext
  refine ⟨xorBytes (Padding.pad (Utf8.encode text)) (List.replicate 16 0), ?_, fun bytes => ?_⟩
  · rw [length_xorBytes, hblock, List.length_replicate, Nat.min_self]
  · rw [Cbc.alter_of_block hblock _ List.length_replicate]
    exact Padding.not_fills_of_getLast? rfl bytes

end Gm

/-- **A changed nonce changes the first block.** With keys of the right lengths every text is sealed.
Let the nonce of the envelope be xored with a mask of sixteen bytes before it is opened.

- Tampering is never reported. What comes out is the text whose encoding is left when the padding is
  removed from the padded text with its first sixteen bytes xored with the mask; if there is no such
  text, the cipher fails.
- If the text has sixteen bytes or more, there is always padding to remove, and it leaves the text with
  its first block xored with the mask. So any text that comes out has the same length and is the same
  behind the first block.
- If the text has fewer than sixteen bytes, any text of fewer than sixteen bytes can come out, longer
  ones and shorter ones, and there may be no padding to remove, so that the cipher fails. -/
theorem changed_nonce_changes_first_block {key mac : SecretKey}
    (hkey : key.bytes.length = KeyKind.gmEncryption.length)
    (hmac : mac.bytes.length = KeyKind.gmMac.length) (text : String) (entropy : Entropy) :
    ∃ e after, gm.encrypt ⟨some key, some mac⟩ text entropy = (.ok e, after) ∧
      let bytes := Utf8.encode text
      let opened := fun mask : List UInt8 =>
        gm.decrypt ⟨some key, some mac⟩ { e with nonce := xorBytes e.nonce mask }
      (∀ mask : List UInt8, mask.length = 16 →
        (∀ suite, opened mask ≠ .error (.tampered suite)) ∧
        (∀ other, opened mask = .ok other ↔
          Padding.Fills (Utf8.encode other) (Cbc.alter mask (Padding.pad bytes))) ∧
        ((∀ other, ¬Padding.Fills (Utf8.encode other) (Cbc.alter mask (Padding.pad bytes))) →
          opened mask = .error (.cipher .gm))) ∧
      (16 ≤ bytes.length → ∀ mask : List UInt8, mask.length = 16 →
        Padding.Fills (Cbc.alter mask bytes) (Cbc.alter mask (Padding.pad bytes)) ∧
        ∀ other, opened mask = .ok other → Utf8.encode other = Cbc.alter mask bytes ∧
          (Utf8.encode other).length = bytes.length ∧
          (Utf8.encode other).drop 16 = bytes.drop 16) ∧
      (bytes.length < 16 →
        (∀ other, (Utf8.encode other).length < 16 →
          ∃ mask : List UInt8, mask.length = 16 ∧ opened mask = .ok other) ∧
        ∃ mask : List UInt8, mask.length = 16 ∧
          (∀ rest, ¬Padding.Fills rest (Cbc.alter mask (Padding.pad bytes))) ∧
          opened mask = .error (.cipher .gm)) := by
  have hkeys : Gm.keys ⟨some key, some mac⟩ = .ok (key, mac) := Gm.keys_eq_ok rfl rfl hkey hmac
  obtain ⟨e, he⟩ := Gm.exists_encrypt_eq_ok hkeys text entropy
  refine ⟨e, _, he, fun mask hmask => ⟨?_, fun other => ?_, ?_⟩, fun htext mask hmask => ⟨?_, ?_⟩,
    fun htext => ⟨fun other hother => Gm.exists_mask_of_short he htext hother, ?_⟩⟩
  · exact Gm.decrypt_of_altered_nonce_ne_tampered he hmask
  · exact Gm.decrypt_of_altered_nonce_eq_ok_iff he hmask
  · exact (Gm.decrypt_of_altered_nonce_eq_cipher_iff he hmask).2
  · rw [Cbc.alter_pad hmask htext]
    exact Padding.fills_pad _
  · intro other hother
    have hbytes := Gm.eq_alter_of_decrypt he hmask htext hother
    rw [hbytes]
    exact ⟨rfl, Cbc.length_alter hmask _, Cbc.drop_alter hmask htext⟩
  · obtain ⟨mask, hmask, hnone⟩ := Gm.exists_mask_of_no_padding htext
    exact ⟨mask, hmask, hnone,
      (Gm.decrypt_of_altered_nonce_eq_cipher_iff he hmask).2 fun other => hnone _⟩

/-- A text of a block and one character, of which one bit is changed, and a text of one character in
the place of which a longer one comes out. -/
theorem one_bit_changes_one_letter :
    (List.replicate 16 (1 : UInt8)).length = KeyKind.gmEncryption.length ∧
    (List.replicate 32 (2 : UInt8)).length = KeyKind.gmMac.length ∧
    (∃ e after, gm.encrypt ⟨some ⟨List.replicate 16 1⟩, some ⟨List.replicate 32 2⟩⟩
        "abcdefghijklmnop!" (Entropy.cycle []) = (.ok e, after) ∧
      gm.decrypt ⟨some ⟨List.replicate 16 1⟩, some ⟨List.replicate 32 2⟩⟩
        { e with nonce := xorBytes e.nonce (1 :: List.replicate 15 0) } =
          .ok "`bcdefghijklmnop!") ∧
    ∃ e after, gm.encrypt ⟨some ⟨List.replicate 16 1⟩, some ⟨List.replicate 32 2⟩⟩
        "a" (Entropy.cycle []) = (.ok e, after) ∧
      ∃ mask, gm.decrypt ⟨some ⟨List.replicate 16 1⟩, some ⟨List.replicate 32 2⟩⟩
        { e with nonce := xorBytes e.nonce mask } = .ok "a longer text" := by
  refine ⟨rfl, rfl, ?_, ?_⟩
  · obtain ⟨e, after, he, hopened, -⟩ := @changed_nonce_changes_first_block
      ⟨List.replicate 16 1⟩ ⟨List.replicate 32 2⟩ rfl rfl "abcdefghijklmnop!" (Entropy.cycle [])
    obtain ⟨-, hok, -⟩ := hopened (1 :: List.replicate 15 0) rfl
    exact ⟨e, after, he, (hok "`bcdefghijklmnop!").2 ⟨15, by decide, by decide, by decide +kernel⟩⟩
  · obtain ⟨e, after, he, -, -, hshort⟩ := @changed_nonce_changes_first_block
      ⟨List.replicate 16 1⟩ ⟨List.replicate 32 2⟩ rfl rfl "a" (Entropy.cycle [])
    obtain ⟨hlonger, -⟩ := hshort (by decide)
    obtain ⟨mask, -, hmask⟩ := hlonger "a longer text" (by decide)
    exact ⟨e, after, he, mask, hmask⟩

end Sealer

end FieldSeal

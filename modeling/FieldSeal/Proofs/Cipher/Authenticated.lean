import FieldSeal.Cipher.ChaChaPoly

/-!
# Authenticated encryption is invertible

**Theorem (`ChaChaPoly.decrypt?_eq_some_iff`).** A byte string opens to `text` exactly when it is
the encrypted text followed by its tag. The stream cipher is its own inverse because the stream
depends on the length of the text only, and encryption keeps the length.
-/

namespace FieldSeal

namespace ChaCha20

theorem zipWith_xor_cancel {text stream : List UInt8} (h : text.length ≤ stream.length) :
    List.zipWith (· ^^^ ·) (List.zipWith (· ^^^ ·) text stream) stream = text := by
  induction text generalizing stream with
  | nil => rfl
  | cons b text ih =>
    cases stream with
    | nil => cases h
    | cons k stream =>
      have htail : text.length ≤ stream.length := Nat.le_of_succ_le_succ h
      simp only [List.zipWith_cons_cons, ih htail, UInt8.xor_assoc, UInt8.xor_self,
        UInt8.xor_zero]

@[simp] theorem crypt_crypt (key nonce text : List UInt8) :
    crypt key nonce (crypt key nonce text) = text := by
  have hlen : text.length ≤ (stream key nonce 1 ((text.length + 63) / 64)).length := by
    rw [length_stream]
    omega
  rw [crypt, length_crypt]
  exact zipWith_xor_cancel hlen

end ChaCha20

namespace ChaChaPoly

@[simp] theorem length_tag (key nonce sealed : List UInt8) :
    (tag key nonce sealed).length = 16 := by
  simp [tag]

theorem encrypt?_eq_some_iff {key nonce text ciphertext mark : List UInt8} :
    encrypt? key nonce text = some (ciphertext, mark) ↔
      text.length / 64 < blockLimit ∧ ChaCha20.crypt key nonce text = ciphertext ∧
        tag key nonce ciphertext = mark := by
  unfold encrypt?
  split
  · next h => simp [Nat.not_lt.2 h]
  · next h =>
    simp only [Option.some.injEq, Prod.mk.injEq, Nat.not_le.1 h, true_and]
    refine ⟨?_, ?_⟩
    · intro h
      obtain ⟨rfl, rfl⟩ := h
      exact ⟨rfl, rfl⟩
    · intro h
      obtain ⟨rfl, rfl⟩ := h
      exact ⟨rfl, rfl⟩

/-- Encryption succeeds for every text that is not too long. -/
theorem exists_encrypt?_eq_some {text : List UInt8} (h : text.length / 64 < blockLimit)
    (key nonce : List UInt8) : ∃ ciphertext mark,
      encrypt? key nonce text = some (ciphertext, mark) :=
  ⟨_, _, encrypt?_eq_some_iff.2 ⟨h, rfl, rfl⟩⟩

theorem decrypt?_append_tag {key nonce ciphertext : List UInt8}
    (h : ciphertext.length / 64 < blockLimit) :
    decrypt? key nonce (ciphertext ++ tag key nonce ciphertext) =
      some (ChaCha20.crypt key nonce ciphertext) := by
  have hcut : (ciphertext ++ tag key nonce ciphertext).length - 16 = ciphertext.length := by
    rw [List.length_append, length_tag]
    omega
  unfold decrypt?
  simp only [hcut, List.take_left, List.drop_left, if_true]
  rw [if_neg]
  rintro (hshort | hlong)
  · rw [List.length_append, length_tag] at hshort
    omega
  · omega

/-- What is opened is an encrypted text and its tag. -/
theorem eq_append_tag_of_decrypt? {key nonce whole text : List UInt8}
    (h : decrypt? key nonce whole = some text) :
    ∃ ciphertext, ciphertext.length / 64 < blockLimit ∧
      whole = ciphertext ++ tag key nonce ciphertext ∧
      ChaCha20.crypt key nonce ciphertext = text := by
  simp only [decrypt?, Option.ite_none_left_eq_some, Option.ite_none_right_eq_some,
    Option.some.injEq, not_or, Nat.not_le] at h
  obtain ⟨⟨-, hlimit⟩, htag, htext⟩ := h
  refine ⟨whole.take (whole.length - 16), hlimit, ?_, htext⟩
  rw [← htag, List.take_append_drop]

/-- **Opening is the inverse of sealing.** -/
theorem decrypt?_eq_some_iff {key nonce whole text : List UInt8} :
    decrypt? key nonce whole = some text ↔
      ∃ ciphertext mark, encrypt? key nonce text = some (ciphertext, mark) ∧
        whole = ciphertext ++ mark := by
  refine ⟨?_, ?_⟩
  · intro h
    obtain ⟨ciphertext, hlimit, rfl, rfl⟩ := eq_append_tag_of_decrypt? h
    refine ⟨ciphertext, tag key nonce ciphertext, encrypt?_eq_some_iff.2 ⟨?_, ?_, rfl⟩, rfl⟩
    · rwa [ChaCha20.length_crypt]
    · rw [ChaCha20.crypt_crypt]
  · intro h
    obtain ⟨ciphertext, mark, h, rfl⟩ := h
    obtain ⟨hlimit, rfl, rfl⟩ := encrypt?_eq_some_iff.1 h
    rw [decrypt?_append_tag (by rwa [ChaCha20.length_crypt]), ChaCha20.crypt_crypt]

end ChaChaPoly

end FieldSeal

import FieldSeal.Cipher.Cbc
import FieldSeal.Proofs.Cipher.Blocks

/-!
# Chained encryption is invertible

**Theorem (`Cbc.decrypt?_eq_some_iff`).** Under a key and a start value, a byte string decrypts to
`text` exactly when it is the encryption of `text`. So nothing but encryptions is decrypted, and
each encryption only to the text that it was made from.

The proof has one step for each layer of the cipher, and each layer is inverted from both sides:

* *rounds*: the rounds of SM4 with the round keys in reverse order undo the rounds, because a round
  changes one word by a function of the other three;
* *chaining*: every block is restored from its encryption and the one before;
* *padding*: what removal accepts is what padding produces, since padded strings fill whole blocks;
* *bytes*: blocks and the byte strings of whole blocks correspond.
-/

namespace FieldSeal

/-! ## Rounds -/

namespace Sm4

/-- A round on the reversed result of a round with the same key gives the start, reversed. -/
theorem round_reverse_round (x : Block) (key : Word) :
    round (round x key).reverse key = x.reverse := by
  have hmix : x.d ^^^ x.c ^^^ x.b = x.b ^^^ x.c ^^^ x.d := by
    rw [UInt32.xor_comm x.d x.c, UInt32.xor_comm (x.c ^^^ x.d) x.b, UInt32.xor_assoc]
  simp only [round, Block.reverse, hmix, UInt32.xor_assoc, UInt32.xor_self, UInt32.xor_zero]

theorem foldl_round_reverse (keys : List Word) (x : Block) :
    keys.reverse.foldl round (keys.foldl round x).reverse = x.reverse := by
  induction keys generalizing x with
  | nil => rfl
  | cons key keys ih =>
    rw [List.foldl_cons, List.reverse_cons, List.foldl_append, ih]
    exact round_reverse_round x key

theorem crypt_reverse_crypt (keys : List Word) (x : Block) :
    crypt keys.reverse (crypt keys x) = x := by
  unfold crypt
  rw [foldl_round_reverse, Block.reverse_reverse]

theorem crypt_crypt_reverse (keys : List Word) (x : Block) :
    crypt keys (crypt keys.reverse x) = x := by
  have h := crypt_reverse_crypt keys.reverse x
  rwa [List.reverse_reverse] at h

end Sm4

/-! ## Padding -/

namespace Padding

theorem length_pad (bytes : List UInt8) :
    (pad bytes).length = 16 * (bytes.length / 16 + 1) := by
  simp only [pad, fill, List.length_append, List.length_replicate]
  omega

theorem unpad?_append_replicate (bytes : List UInt8) {k : Nat} (hpos : 0 < k) (hk : k ≤ 16) :
    unpad? (bytes ++ List.replicate k (UInt8.ofNat k)) = some bytes := by
  have hcount : (UInt8.ofNat k).toNat = k := by
    rw [UInt8.toNat_ofNat']
    omega
  have hlast : (bytes ++ List.replicate k (UInt8.ofNat k)).getLast? = some (UInt8.ofNat k) := by
    rw [List.getLast?_append, List.getLast?_replicate, if_neg (by omega)]
    rfl
  unfold unpad?
  rw [hlast]
  simp only [hcount, List.length_append, List.length_replicate, Nat.add_sub_cancel]
  rw [if_pos ⟨hpos, hk, by omega, by simp⟩, List.take_left]

theorem unpad?_pad (bytes : List UInt8) : unpad? (pad bytes) = some bytes :=
  unpad?_append_replicate bytes (by omega) (by omega)

/-- What is left after the removal of padding, padded again. The padding is as long as its bytes
say, and only one length of padding completes whole blocks. -/
theorem pad_of_unpad? {bytes text : List UInt8} (hblocks : bytes.length % 16 = 0)
    (h : unpad? bytes = some text) : pad text = bytes := by
  unfold unpad? at h
  split at h
  · cases h
  · next last hlast =>
    simp only [Option.ite_none_right_eq_some, Option.some.injEq, List.all_eq_true,
      beq_iff_eq] at h
    obtain ⟨⟨hpos, hle, hlen, hall⟩, rfl⟩ := h
    have htail : bytes.drop (bytes.length - last.toNat) =
        List.replicate last.toNat last := by
      refine List.eq_replicate_iff.2 ⟨?_, hall⟩
      rw [List.length_drop]
      omega
    have hfill : 16 - (bytes.length - last.toNat) % 16 = last.toNat := by omega
    have hbyte : UInt8.ofNat last.toNat = last := UInt8.ofNat_toNat
    rw [pad, fill, List.length_take_of_le (by omega), hfill, hbyte, ← htail,
      List.take_append_drop]

end Padding

/-! ## Chaining -/

namespace Cbc

theorem encryptBlocks_decryptBlocks {encrypt decrypt : Block → Block}
    (inverse : ∀ x, encrypt (decrypt x) = x) (previous : Block) (ys : List Block) :
    encryptBlocks encrypt previous (decryptBlocks decrypt previous ys) = ys := by
  induction ys generalizing previous with
  | nil => rfl
  | cons y rest ih => simp [encryptBlocks, decryptBlocks, inverse, ih]

/-- The encryption in terms of blocks: those of the padded text, chained. -/
theorem encrypt?_eq_some_iff {key start text sealed : List UInt8} :
    encrypt? key start text = some sealed ↔
      ∃ k s xs, Block.ofBytes? key = some k ∧ Block.ofBytes? start = some s ∧
        Block.listToBytes xs = Padding.pad text ∧
        Block.listToBytes (encryptBlocks (Sm4.crypt (Sm4.roundKeys k)) s xs) = sealed := by
  simp only [encrypt?, Option.bind_eq_bind, Option.bind_eq_some_iff, Option.pure_def,
    Option.some.injEq, Block.listOfBytes?_eq_some_iff]
  refine ⟨?_, ?_⟩
  · intro h
    obtain ⟨k, hk, s, hs, xs, hxs, h⟩ := h
    exact ⟨k, s, xs, hk, hs, hxs, h⟩
  · intro h
    obtain ⟨k, s, xs, hk, hs, hxs, h⟩ := h
    exact ⟨k, hk, s, hs, xs, hxs, h⟩

/-- The decryption in terms of blocks: unchained, and the padding removed. -/
theorem decrypt?_eq_some_iff_blocks {key start text sealed : List UInt8} :
    decrypt? key start sealed = some text ↔
      ∃ k s ys, Block.ofBytes? key = some k ∧ Block.ofBytes? start = some s ∧
        Block.listToBytes ys = sealed ∧
        Padding.unpad? (Block.listToBytes
          (decryptBlocks (Sm4.crypt (Sm4.roundKeys k).reverse) s ys)) = some text := by
  simp only [decrypt?, Option.bind_eq_bind, Option.bind_eq_some_iff,
    Block.listOfBytes?_eq_some_iff]
  refine ⟨?_, ?_⟩
  · intro h
    obtain ⟨k, hk, s, hs, ys, hys, h⟩ := h
    exact ⟨k, s, ys, hk, hs, hys, h⟩
  · intro h
    obtain ⟨k, s, ys, hk, hs, hys, h⟩ := h
    exact ⟨k, hk, s, hs, ys, hys, h⟩

/-- **Decryption is the inverse of encryption.** Both directions of the equivalence invert every
layer, the forward one by encrypting what was decrypted. -/
theorem decrypt?_eq_some_iff {key start text sealed : List UInt8} :
    decrypt? key start sealed = some text ↔ encrypt? key start text = some sealed := by
  rw [decrypt?_eq_some_iff_blocks, encrypt?_eq_some_iff]
  refine ⟨?_, ?_⟩
  · intro h
    obtain ⟨k, s, ys, hk, hs, rfl, h⟩ := h
    refine ⟨k, s, decryptBlocks (Sm4.crypt (Sm4.roundKeys k).reverse) s ys, hk, hs, ?_, ?_⟩
    · exact (Padding.pad_of_unpad? (by rw [Block.length_listToBytes]; omega) h).symm
    · rw [encryptBlocks_decryptBlocks (Sm4.crypt_crypt_reverse _)]
  · intro h
    obtain ⟨k, s, xs, hk, hs, hxs, rfl⟩ := h
    refine ⟨k, s, encryptBlocks (Sm4.crypt (Sm4.roundKeys k)) s xs, hk, hs, rfl, ?_⟩
    rw [decryptBlocks_encryptBlocks (Sm4.crypt_reverse_crypt _), hxs, Padding.unpad?_pad]

/-- Encryption succeeds for every text, given a key and a start value of a block each. -/
theorem exists_encrypt?_eq_some {key start : List UInt8} (hkey : key.length = 16)
    (hstart : start.length = 16) (text : List UInt8) :
    ∃ sealed, encrypt? key start text = some sealed := by
  obtain ⟨k, hk⟩ := Block.exists_ofBytes?_eq_some hkey
  obtain ⟨s, hs⟩ := Block.exists_ofBytes?_eq_some hstart
  obtain ⟨xs, -, hxs⟩ := Block.exists_listToBytes_eq _ (Padding.length_pad text)
  exact ⟨_, encrypt?_eq_some_iff.2 ⟨k, s, xs, hk, hs, hxs, rfl⟩⟩

end Cbc

end FieldSeal

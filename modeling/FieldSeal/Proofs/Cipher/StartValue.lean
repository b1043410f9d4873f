import FieldSeal.Proofs.Cipher.Chaining

/-!
# Decryption from another start value

**Theorem (`Cbc.decrypt?_of_other_start`).** A string that was encrypted from one start value and is
decrypted from another gives the padded text with its first sixteen bytes xored with both start
values; padding is removed from the result.

The start value enters the chain at the first block only (`Cbc.decryptBlocks_of_other_start`). So a
text of a block or more keeps its padding and everything behind its first block, and a shorter one
comes back with fewer than sixteen bytes, if at all (`Cbc.eq_of_decrypt?_of_other_start`).
-/

namespace FieldSeal

/-! ## Exclusive or on bytes -/

theorem Word.toBig_xor (v w : Word) :
    (v ^^^ w).toBig = List.zipWith (· ^^^ ·) v.toBig w.toBig := by
  have hpart : ∀ k : Nat, UInt8.ofNat ((v ^^^ w).toNat / 2 ^ k) =
      UInt8.ofNat (v.toNat / 2 ^ k) ^^^ UInt8.ofNat (w.toNat / 2 ^ k) := by
    intro k
    rw [UInt32.toNat_xor, Nat.xor_div_two_pow, UInt8.ofNat_xor]
  have h₃ := hpart 24
  have h₂ := hpart 16
  have h₁ := hpart 8
  have h₀ := hpart 0
  simp only [Nat.pow_zero, Nat.div_one] at h₀
  simp only [toBig, List.zipWith_cons_cons, List.zipWith_nil_left, List.cons.injEq, and_true]
  exact ⟨h₃, h₂, h₁, h₀⟩

/-- Bitwise exclusive or of byte strings, as long as the shorter one. -/
def xorBytes (xs ys : List UInt8) : List UInt8 := List.zipWith (· ^^^ ·) xs ys

theorem length_xorBytes (xs ys : List UInt8) :
    (xorBytes xs ys).length = min xs.length ys.length := List.length_zipWith

namespace Block

theorem listToBytes_singleton (x : Block) :
    listToBytes [x] = x.a.toBig ++ x.b.toBig ++ x.c.toBig ++ x.d.toBig := rfl

theorem listToBytes_singleton_xor (x y : Block) :
    listToBytes [x.xor y] = xorBytes (listToBytes [x]) (listToBytes [y]) := by
  simp only [listToBytes_singleton, xor, Word.toBig_xor, xorBytes]
  rfl

theorem length_listToBytes_singleton (x : Block) : (listToBytes [x]).length = 16 := rfl

end Block

/-! ## Another start value -/

namespace Cbc

variable {key start other text sealed bytes : List UInt8}

/-- The start value is xored to the first block and to no other. -/
theorem decryptBlocks_of_other_start {encrypt decrypt : Block → Block}
    (inverse : ∀ x, decrypt (encrypt x) = x) (start other x : Block) (rest : List Block) :
    decryptBlocks decrypt other (encryptBlocks encrypt start (x :: rest)) =
      (x.xor start).xor other :: rest := by
  rw [encryptBlocks, decryptBlocks, inverse, decryptBlocks_encryptBlocks inverse]

theorem decrypt?_of_other_start (h : encrypt? key start text = some sealed)
    (hother : other.length = 16) :
    decrypt? key other sealed = Padding.unpad? (xorBytes (xorBytes ((Padding.pad text).take 16) start)
      other ++ (Padding.pad text).drop 16) := by
  obtain ⟨k, s, xs, hk, hs, hxs, rfl⟩ := encrypt?_eq_some_iff.1 h
  obtain ⟨o, ho⟩ := Block.exists_ofBytes?_eq_some hother
  have hstart := Block.ofBytes?_eq_some_iff.1 hs
  have hbytes := Block.ofBytes?_eq_some_iff.1 ho
  have hread : ∀ ys, Block.listOfBytes? (Block.listToBytes ys) = some ys :=
    fun ys => Block.listOfBytes?_eq_some_iff.2 rfl
  simp only [decrypt?, Option.bind_eq_bind, hk, ho, hread, Option.bind_some]
  cases xs with
  | nil =>
    -- Padding never leaves an empty string.
    have hlen := congrArg List.length hxs
    rw [Padding.length_pad, Block.length_listToBytes] at hlen
    simp only [List.length_nil] at hlen
    omega
  | cons x rest =>
    rw [decryptBlocks_of_other_start (Sm4.crypt_reverse_crypt _), ← hxs, Block.listToBytes_cons,
      Block.listToBytes_cons x, Block.listToBytes_singleton_xor, Block.listToBytes_singleton_xor,
      hstart, hbytes, List.take_left' (Block.length_listToBytes_singleton x),
      List.drop_left' (Block.length_listToBytes_singleton x)]

/-- With a whole block of text in front, the padding stays what it was. -/
theorem decrypt?_of_other_start_of_le (h : encrypt? key start text = some sealed)
    (hstart : start.length = 16) (hother : other.length = 16) (htext : 16 ≤ text.length) :
    decrypt? key other sealed =
      some (xorBytes (xorBytes (text.take 16) start) other ++ text.drop 16) := by
  have hlen : (xorBytes (xorBytes (text.take 16) start) other ++ text.drop 16).length =
      text.length := by
    rw [List.length_append, length_xorBytes, length_xorBytes, List.length_take, List.length_drop]
    omega
  have hpad : xorBytes (xorBytes ((Padding.pad text).take 16) start) other ++
      (Padding.pad text).drop 16 =
        Padding.pad (xorBytes (xorBytes (text.take 16) start) other ++ text.drop 16) := by
    rw [Padding.pad, Padding.pad, hlen, List.take_append_of_le_length htext,
      List.drop_append_of_le_length htext, List.append_assoc]
  rw [decrypt?_of_other_start h hother, hpad, Padding.unpad?_pad]

/-- What comes back: behind the first block the text itself, and in the first block the text xored
with both start values. -/
theorem eq_of_decrypt?_of_other_start (h : encrypt? key start text = some sealed)
    (hstart : start.length = 16) (hother : other.length = 16)
    (hbytes : decrypt? key other sealed = some bytes) :
    bytes.drop 16 = text.drop 16 ∧
      (16 ≤ text.length → bytes.take 16 = xorBytes (xorBytes (text.take 16) start) other) := by
  by_cases htext : 16 ≤ text.length
  · have hfirst : (xorBytes (xorBytes (text.take 16) start) other).length = 16 := by
      rw [length_xorBytes, length_xorBytes, List.length_take]
      omega
    rw [decrypt?_of_other_start_of_le h hstart hother htext, Option.some.injEq] at hbytes
    subst hbytes
    exact ⟨List.drop_left' hfirst, fun _ => List.take_left' hfirst⟩
  · -- The padded text is a single block, so that less than a block is left without padding.
    have hblock : (Padding.pad text).length = 16 := by
      rw [Padding.length_pad]
      omega
    have hchanged : (xorBytes (xorBytes ((Padding.pad text).take 16) start) other ++
        (Padding.pad text).drop 16).length = 16 := by
      rw [List.length_append, length_xorBytes, length_xorBytes, List.length_take, List.length_drop]
      omega
    rw [decrypt?_of_other_start h hother] at hbytes
    have hpad := congrArg List.length (Padding.pad_of_unpad? (by rw [hchanged]) hbytes)
    rw [hchanged, Padding.length_pad] at hpad
    refine ⟨?_, fun h => absurd h htext⟩
    rw [List.drop_eq_nil_of_le (by omega), List.drop_eq_nil_of_le (by omega)]

end Cbc

end FieldSeal

import FieldSeal.Cipher.Word

/-!
# Words and blocks as bytes

Reading words or blocks from a byte string and writing them as one undo each other. Each reader is
characterized by its writer: it answers `xs` exactly on the byte string that `xs` is written as, and
it answers at all exactly on the lengths that fill whole words or blocks.
-/

namespace FieldSeal

/-! ## Words -/

namespace Word

theorem ofBig_toBig (w : Word) :
    ofBig (UInt8.ofNat (w.toNat / 16777216)) (UInt8.ofNat (w.toNat / 65536))
      (UInt8.ofNat (w.toNat / 256)) (UInt8.ofNat w.toNat) = w := by
  have hw := w.toNat_lt
  apply UInt32.toNat.inj
  simp only [ofBig, UInt32.toNat_ofNat', UInt8.toNat_ofNat']
  omega

theorem toBig_ofBig (a b c d : UInt8) : (ofBig a b c d).toBig = [a, b, c, d] := by
  have ha := a.toNat_lt
  have hb := b.toNat_lt
  have hc := c.toNat_lt
  have hd := d.toNat_lt
  simp only [toBig, ofBig, List.cons.injEq, and_true, ← UInt8.toNat_inj, UInt32.toNat_ofNat',
    UInt8.toNat_ofNat']
  omega

theorem listToBig_cons (w : Word) (ws : List Word) :
    listToBig (w :: ws) = w.toBig ++ listToBig ws := rfl

theorem listOfBig?_listToBig (ws : List Word) : listOfBig? (listToBig ws) = some ws := by
  induction ws with
  | nil => rfl
  | cons w ws ih =>
    rw [listToBig_cons]
    simp only [toBig, List.cons_append, List.nil_append, listOfBig?, ih, Option.map_some]
    rw [ofBig_toBig]

theorem listToBig_of_listOfBig? {bytes : List UInt8} {ws : List Word}
    (h : listOfBig? bytes = some ws) : listToBig ws = bytes := by
  fun_induction listOfBig? bytes generalizing ws with
  | case1 =>
    cases h
    rfl
  | case2 a b c d rest ih =>
    obtain ⟨vs, hvs, rfl⟩ := Option.map_eq_some_iff.1 h
    rw [listToBig_cons, toBig_ofBig, ih hvs]
    rfl
  | case3 => cases h

theorem listOfBig?_eq_some_iff {bytes : List UInt8} {ws : List Word} :
    listOfBig? bytes = some ws ↔ listToBig ws = bytes :=
  ⟨listToBig_of_listOfBig?, fun h => h ▸ listOfBig?_listToBig ws⟩

theorem exists_listToBig_eq (n : Nat) {bytes : List UInt8} (h : bytes.length = 4 * n) :
    ∃ ws : List Word, ws.length = n ∧ listToBig ws = bytes := by
  induction n generalizing bytes with
  | zero => exact ⟨[], rfl, (List.eq_nil_of_length_eq_zero h).symm⟩
  | succ n ih =>
    obtain _ | ⟨a, _ | ⟨b, _ | ⟨c, _ | ⟨d, rest⟩⟩⟩⟩ := bytes
    case cons.cons.cons.cons =>
      simp only [List.length_cons] at h
      obtain ⟨ws, hn, hws⟩ := @ih rest (by omega)
      refine ⟨ofBig a b c d :: ws, by simp [hn], ?_⟩
      rw [listToBig_cons, toBig_ofBig, hws]
      rfl
    all_goals simp only [List.length_cons, List.length_nil] at h; omega

end Word

/-! ## Blocks -/

namespace Block

theorem listOfWords?_flatMap (xs : List Block) : listOfWords? (xs.flatMap toWords) = some xs := by
  induction xs with
  | nil => rfl
  | cons x xs ih =>
    rw [List.flatMap_cons]
    simp only [toWords, List.cons_append, List.nil_append, listOfWords?, ih, Option.map_some]

theorem flatMap_of_listOfWords? {ws : List Word} {xs : List Block}
    (h : listOfWords? ws = some xs) : xs.flatMap toWords = ws := by
  fun_induction listOfWords? ws generalizing xs with
  | case1 =>
    cases h
    rfl
  | case2 a b c d rest ih =>
    obtain ⟨ys, hys, rfl⟩ := Option.map_eq_some_iff.1 h
    rw [List.flatMap_cons, ih hys]
    rfl
  | case3 => cases h

theorem listOfBytes?_eq_some_iff {bytes : List UInt8} {xs : List Block} :
    listOfBytes? bytes = some xs ↔ listToBytes xs = bytes := by
  unfold listOfBytes? listToBytes
  rw [Option.bind_eq_some_iff]
  refine ⟨?_, ?_⟩
  · intro h
    obtain ⟨ws, hws, hxs⟩ := h
    rw [flatMap_of_listOfWords? hxs, Word.listToBig_of_listOfBig? hws]
  · intro h
    exact ⟨xs.flatMap toWords, Word.listOfBig?_eq_some_iff.2 h, listOfWords?_flatMap xs⟩

theorem listToBytes_cons (x : Block) (xs : List Block) :
    listToBytes (x :: xs) = listToBytes [x] ++ listToBytes xs := by
  simp [listToBytes, Word.listToBig]

@[simp] theorem length_listToBytes (xs : List Block) :
    (listToBytes xs).length = 16 * xs.length := by
  induction xs with
  | nil => rfl
  | cons x xs ih =>
    rw [listToBytes_cons, List.length_append, ih, List.length_cons]
    have h : (listToBytes [x]).length = 16 := rfl
    omega

theorem exists_listToBytes_eq (n : Nat) {bytes : List UInt8} (h : bytes.length = 16 * n) :
    ∃ xs : List Block, xs.length = n ∧ listToBytes xs = bytes := by
  obtain ⟨ws, hn, rfl⟩ := Word.exists_listToBig_eq (4 * n) (by omega : bytes.length = 4 * (4 * n))
  clear h
  induction n generalizing ws with
  | zero => exact ⟨[], rfl, by rw [List.eq_nil_of_length_eq_zero hn]; rfl⟩
  | succ n ih =>
    obtain _ | ⟨a, _ | ⟨b, _ | ⟨c, _ | ⟨d, rest⟩⟩⟩⟩ := ws
    case cons.cons.cons.cons =>
      simp only [List.length_cons] at hn
      obtain ⟨xs, hlen, hxs⟩ := ih rest (by omega)
      refine ⟨⟨a, b, c, d⟩ :: xs, by simp [hlen], ?_⟩
      rw [listToBytes_cons, hxs]
      simp [listToBytes, Word.listToBig, toWords]
    all_goals simp only [List.length_cons, List.length_nil] at hn; omega

theorem ofBytes?_eq_some_iff {bytes : List UInt8} {x : Block} :
    ofBytes? bytes = some x ↔ listToBytes [x] = bytes := by
  rw [← listOfBytes?_eq_some_iff, ofBytes?]
  split
  · next y h => simp [h]
  · next h =>
    refine ⟨?_, ?_⟩
    · intro hx
      cases hx
    · intro hx
      exact absurd hx (h x)

theorem exists_ofBytes?_eq_some {bytes : List UInt8} (h : bytes.length = 16) :
    ∃ x, ofBytes? bytes = some x := by
  obtain ⟨xs, hlen, rfl⟩ := exists_listToBytes_eq 1 h
  obtain ⟨x, rfl⟩ := List.length_eq_one_iff.1 hlen
  exact ⟨x, ofBytes?_eq_some_iff.2 rfl⟩

end Block

end FieldSeal

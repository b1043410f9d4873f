import FieldSeal.Bytes.Base64Url
import Mathlib.Data.List.DropRight

/-!
# Base64 has one spelling up to padding

**Theorem (`decodeChars?_eq_some_iff`).** A text denotes `bytes` exactly when it is the unpadded
text of `bytes` followed by at most as many `=` as complete the last group.

The two layers of the format are inverted one after the other. *Symbols* and six-bit values
correspond. *Six-bit values* and bytes correspond as far as the unused bits of the last value are
zero, which is what reading insists on.

No symbol is `=` or `|`, so padding can be told from symbols and encoded bytes can stand between
delimiters.
-/

namespace FieldSeal.Base64Url

/-! ## Symbols -/

theorem value?_symbol {n : Nat} (h : n < 64) : value? (symbol n) = some n := by
  revert n
  decide

theorem symbol_ne_of_lt {n : Nat} (h : n < 64) : symbol n ≠ '=' ∧ symbol n ≠ '|' := by
  revert n
  decide

theorem symbol_of_value? {c : Char} {n : Nat} (h : value? c = some n) : symbol n = c ∧ n < 64 := by
  unfold value? at h
  simp only [Char.le_def, UInt32.le_iff_toNat_le] at h
  have hchar : Char.ofNat c.toNat = c := Char.ofNat_toNat c
  split at h
  · next hc =>
    change 65 ≤ c.toNat ∧ c.toNat ≤ 90 at hc
    cases h
    refine ⟨?_, by omega⟩
    rw [symbol, if_pos (by omega), Nat.add_sub_cancel' hc.1, hchar]
  · split at h
    · next hc =>
      change 97 ≤ c.toNat ∧ c.toNat ≤ 122 at hc
      cases h
      refine ⟨?_, by omega⟩
      rw [symbol, if_neg (by omega), if_pos (by omega), Nat.add_sub_cancel' (by omega), hchar]
    · split at h
      · next hc =>
        change 48 ≤ c.toNat ∧ c.toNat ≤ 57 at hc
        cases h
        refine ⟨?_, by omega⟩
        rw [symbol, if_neg (by omega), if_neg (by omega), if_pos (by omega), Nat.add_sub_cancel,
          hchar]
      · split at h
        · next hc =>
          cases h
          exact ⟨hc.symm, by omega⟩
        · split at h
          · next hc =>
            cases h
            exact ⟨hc.symm, by omega⟩
          · cases h

theorem mapM_value?_map_symbol {ns : List Nat} (h : ∀ n ∈ ns, n < 64) :
    (ns.map symbol).mapM value? = some ns := by
  induction ns with
  | nil => rfl
  | cons n ns ih =>
    rw [List.map_cons, List.mapM_cons, value?_symbol (h n List.mem_cons_self),
      ih fun m hm => h m (List.mem_cons_of_mem n hm)]
    rfl

theorem map_symbol_of_mapM_value? {cs : List Char} {ns : List Nat}
    (h : cs.mapM value? = some ns) : ns.map symbol = cs ∧ ∀ n ∈ ns, n < 64 := by
  induction cs generalizing ns with
  | nil =>
    cases h
    exact ⟨rfl, fun n hn => by cases hn⟩
  | cons c cs ih =>
    rw [List.mapM_cons] at h
    obtain ⟨n, hn, h⟩ := Option.bind_eq_some_iff.1 h
    obtain ⟨ms, hms, h⟩ := Option.bind_eq_some_iff.1 h
    cases h
    obtain ⟨hsymbol, hlt⟩ := symbol_of_value? hn
    obtain ⟨hrest, hall⟩ := ih hms
    refine ⟨by rw [List.map_cons, hsymbol, hrest], fun m hm => ?_⟩
    rcases List.mem_cons.1 hm with rfl | hm
    · exact hlt
    · exact hall m hm

/-! ## Six-bit values -/

theorem sextets_lt (bytes : List UInt8) : ∀ n ∈ sextets bytes, n < 64 := by
  fun_induction sextets bytes with
  | case1 => simp
  | case2 a =>
    have ha := a.toNat_lt
    simp only [List.mem_cons, List.not_mem_nil, or_false]
    omega
  | case3 a b =>
    have ha := a.toNat_lt
    have hb := b.toNat_lt
    simp only [List.mem_cons, List.not_mem_nil, or_false]
    omega
  | case4 a b c rest ih =>
    have ha := a.toNat_lt
    have hb := b.toNat_lt
    have hc := c.toNat_lt
    simp only [List.mem_cons]
    rintro n (rfl | rfl | rfl | rfl | hn)
    · omega
    · omega
    · omega
    · omega
    · exact ih n hn

theorem octets?_sextets (bytes : List UInt8) : octets? (sextets bytes) = some bytes := by
  fun_induction sextets bytes with
  | case1 => rfl
  | case2 a =>
    have ha := a.toNat_lt
    rw [octets?, if_pos (by omega), Option.some.injEq, List.cons.injEq, ← UInt8.toNat_inj,
      UInt8.toNat_ofNat']
    exact ⟨by omega, rfl⟩
  | case3 a b =>
    have ha := a.toNat_lt
    have hb := b.toNat_lt
    rw [octets?, if_pos (by omega)]
    simp only [Option.some.injEq, List.cons.injEq, ← UInt8.toNat_inj, UInt8.toNat_ofNat']
    exact ⟨by omega, by omega, trivial⟩
  | case4 a b c rest ih =>
    have ha := a.toNat_lt
    have hb := b.toNat_lt
    have hc := c.toNat_lt
    rw [octets?, ih, Option.map_some]
    simp only [Option.some.injEq, List.cons.injEq, ← UInt8.toNat_inj, UInt8.toNat_ofNat']
    exact ⟨by omega, by omega, by omega, trivial⟩

/-- The unused bits of the last value are zero when it is read, so that writing restores it. -/
theorem sextets_of_octets? {ns : List Nat} {bytes : List UInt8} (hlt : ∀ n ∈ ns, n < 64)
    (h : octets? ns = some bytes) : sextets bytes = ns := by
  fun_induction octets? ns generalizing bytes with
  | case1 =>
    cases h
    rfl
  | case2 => cases h
  | case3 p q hq =>
    cases h
    have hp := hlt p (by simp)
    have hq' := hlt q (by simp)
    simp only [sextets, List.cons.injEq, UInt8.toNat_ofNat']
    exact ⟨by omega, by omega, trivial⟩
  | case4 => cases h
  | case5 p q r hr =>
    cases h
    have hp := hlt p (by simp)
    have hq := hlt q (by simp)
    have hr' := hlt r (by simp)
    simp only [sextets, List.cons.injEq, UInt8.toNat_ofNat']
    exact ⟨by omega, by omega, by omega, trivial⟩
  | case6 => cases h
  | case7 p q r s rest ih =>
    obtain ⟨tail, htail, rfl⟩ := Option.map_eq_some_iff.1 h
    have hp := hlt p (by simp)
    have hq := hlt q (by simp)
    have hr := hlt r (by simp)
    have hs := hlt s (by simp)
    have hrest : sextets tail = rest := ih (fun n hn => hlt n (by simp [hn])) htail
    simp only [sextets, hrest, List.cons.injEq, UInt8.toNat_ofNat']
    exact ⟨by omega, by omega, by omega, by omega, trivial⟩

/-! ## Texts -/

theorem ne_of_mem_encodeChars {bytes : List UInt8} {c : Char} (h : c ∈ encodeChars bytes) :
    c ≠ '=' ∧ c ≠ '|' := by
  obtain ⟨n, hn, rfl⟩ := List.mem_map.1 h
  exact symbol_ne_of_lt (sextets_lt bytes n hn)

theorem decodeChars?_append_replicate (bytes : List UInt8) {k : Nat}
    (hk : k ≤ room (encodeChars bytes).length) :
    decodeChars? (encodeChars bytes ++ List.replicate k '=') = some bytes := by
  have hsymbols : ∀ c ∈ encodeChars bytes, decide (c ≠ '=') = true := fun c hc =>
    decide_eq_true (ne_of_mem_encodeChars hc).1
  have htake : (List.replicate k '=').takeWhile (fun c => decide (c ≠ '=')) = [] := by
    cases k <;> simp [List.replicate_succ]
  have hdrop : (List.replicate k '=').dropWhile (fun c => decide (c ≠ '=')) =
      List.replicate k '=' := by
    cases k <;> simp [List.replicate_succ]
  unfold decodeChars?
  rw [List.takeWhile_append_of_pos hsymbols, List.dropWhile_append_of_pos hsymbols, htake, hdrop,
    List.append_nil, if_pos ⟨by simp, by rwa [List.length_replicate]⟩, encodeChars,
    mapM_value?_map_symbol (sextets_lt bytes), Option.bind_some, octets?_sextets]

/-- **One spelling up to padding.** -/
theorem decodeChars?_eq_some_iff {text : List Char} {bytes : List UInt8} :
    decodeChars? text = some bytes ↔
      ∃ k ≤ room (encodeChars bytes).length,
        text = encodeChars bytes ++ List.replicate k '=' := by
  refine ⟨?_, ?_⟩
  · intro h
    unfold decodeChars? at h
    simp only [Option.ite_none_right_eq_some] at h
    obtain ⟨⟨hpadding, hroom⟩, h⟩ := h
    obtain ⟨ns, hns, hbytes⟩ := Option.bind_eq_some_iff.1 h
    obtain ⟨hsymbols, hlt⟩ := map_symbol_of_mapM_value? hns
    have hencode : encodeChars bytes = text.takeWhile (fun c => decide (c ≠ '=')) := by
      rw [encodeChars, sextets_of_octets? hlt hbytes, hsymbols]
    have hequals : text.dropWhile (fun c => decide (c ≠ '=')) =
        List.replicate (text.dropWhile fun c => decide (c ≠ '=')).length '=' :=
      List.eq_replicate_iff.2 ⟨rfl, fun c hc =>
        of_decide_eq_true (List.all_eq_true.1 hpadding c hc)⟩
    refine ⟨_, hencode ▸ hroom, ?_⟩
    rw [hencode, ← hequals, List.takeWhile_append_dropWhile]
  · intro h
    obtain ⟨k, hk, rfl⟩ := h
    exact decodeChars?_append_replicate bytes hk

/-- The text is the unpadded text of the bytes and behind it at most as many `=` as complete the
last group. -/
def Spells (text : String) (bytes : List UInt8) : Prop :=
  ∃ k ≤ room (encodeChars bytes).length,
    text.toList = encodeChars bytes ++ List.replicate k '='

theorem decode?_eq_some_iff {text : String} {bytes : List UInt8} :
    decode? text = some bytes ↔ Spells text bytes := decodeChars?_eq_some_iff

/-- A text spells at most one byte string. -/
theorem Spells.unique {text : String} {bytes bytes' : List UInt8} (h : Spells text bytes)
    (h' : Spells text bytes') : bytes = bytes' :=
  Option.some.inj ((decode?_eq_some_iff.2 h).symm.trans (decode?_eq_some_iff.2 h'))

@[simp] theorem decode?_encode (bytes : List UInt8) : decode? (encode bytes) = some bytes := by
  rw [decode?, encode, String.toList_ofList, decodeChars?_eq_some_iff]
  exact ⟨0, Nat.zero_le _, by simp⟩

theorem encode_injective {bytes bytes' : List UInt8} (h : encode bytes = encode bytes') :
    bytes = bytes' := by
  have hb := decode?_encode bytes
  rw [h, decode?_encode] at hb
  exact (Option.some.inj hb).symm

theorem not_mem_encode (bytes : List UInt8) : '|' ∉ (encode bytes).toList := by
  rw [encode, String.toList_ofList]
  intro h
  exact (ne_of_mem_encodeChars h).2 rfl

/-! ## Padding -/

/-- The text without the padding at its end. -/
def trimPadding (text : String) : String := String.ofList (text.toList.rdropWhile (· = '='))

theorem rdropWhile_encodeChars (bytes : List UInt8) (k : Nat) :
    (encodeChars bytes ++ List.replicate k '=').rdropWhile (fun c => decide (c = '=')) =
      encodeChars bytes := by
  induction k with
  | zero =>
    rw [List.replicate_zero, List.append_nil, List.rdropWhile_eq_self_iff]
    intro hne hlast
    exact (ne_of_mem_encodeChars (List.getLast_mem hne)).1 (of_decide_eq_true hlast)
  | succ k ih =>
    rw [List.replicate_succ', ← List.append_assoc, List.rdropWhile_concat_pos _ _ _ rfl, ih]

/-- What was read, written again, is the text without its padding. -/
theorem encode_of_decode? {text : String} {bytes : List UInt8} (h : decode? text = some bytes) :
    encode bytes = trimPadding text := by
  obtain ⟨k, -, htext⟩ := decodeChars?_eq_some_iff.1 h
  rw [encode, trimPadding, htext, rdropWhile_encodeChars]

end FieldSeal.Base64Url

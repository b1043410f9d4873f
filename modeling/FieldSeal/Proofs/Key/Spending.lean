import FieldSeal.Proofs.Key.Supply

/-!
# Random bytes spent on keys

**Slices.** Random bytes are drawn in slices, each for one use: a key that a ring keeps, a key that
is kept nowhere, or a nonce. A list of uses is laid out in the stream one slice behind the other
(`layOut`), so that no byte belongs to two of them (`pairwise_layOut`).

**Spending** (`Spends`). A step is asked for keys of some kinds and spends the bytes of some uses. It
moves the stream by exactly these uses; each kind that it is asked for and that was lacking is among
them once, and its slice is the key from then on. This passes from steps to sequences of steps
(`Spends.trans`).

A ring that is asked for a key spends the length of its kind if it lacks the key, and nothing
otherwise (`KeyRing.spends_get`). A supply that is asked for a pair spends what is missing, in the
order in which the suite needs the kinds (`KeySupply.spends_pairFor`).
-/

namespace FieldSeal

/-! ## Slices -/

/-- What random bytes are drawn for. -/
inductive Use where
  /-- A key that the ring keeps. -/
  | kept (kind : KeyKind)
  /-- A key that is kept nowhere. -/
  | loose (kind : KeyKind)
  /-- The nonce of one encryption. -/
  | nonce (suite : Suite)
  deriving DecidableEq, Repr

namespace Use

def length : Use → Nat
  | kept kind | loose kind => kind.length
  | nonce suite => suite.nonceLength

/-- The number of bytes for all of the uses. -/
def total : List Use → Nat
  | [] => 0
  | use :: uses => use.length + total uses

theorem total_append (uses uses' : List Use) : total (uses ++ uses') = total uses + total uses' := by
  induction uses with
  | nil => exact (Nat.zero_add _).symm
  | cons use uses ih => rw [List.cons_append, total, total, ih, Nat.add_assoc]

end Use

/-- A part of the stream, drawn for one use. -/
structure Slice where
  use : Use
  start : Nat
  deriving DecidableEq, Repr

namespace Slice

/-- The first position behind the slice. -/
def stop (slice : Slice) : Nat := slice.start + slice.use.length

def bytes (entropy : Entropy) (slice : Slice) : List UInt8 :=
  entropy.slice slice.start slice.use.length

/-- The number of bytes that were taken has no influence on which bytes there are. -/
theorem bytes_congr {entropy entropy' : Entropy} (h : entropy.byte = entropy'.byte)
    (slice : Slice) : slice.bytes entropy = slice.bytes entropy' := by
  rw [bytes, bytes, Entropy.slice, Entropy.slice, h]

end Slice

/-- The slices of uses, one behind the other. -/
def layOut : Nat → List Use → List Slice
  | _, [] => []
  | start, use :: uses => ⟨use, start⟩ :: layOut (start + use.length) uses

theorem layOut_append (start : Nat) (uses uses' : List Use) :
    layOut start (uses ++ uses') = layOut start uses ++ layOut (start + Use.total uses) uses' := by
  induction uses generalizing start with
  | nil => rfl
  | cons use uses ih =>
    rw [List.cons_append, layOut, ih, Use.total, layOut, List.cons_append, Nat.add_assoc]

theorem map_use_layOut (start : Nat) (uses : List Use) :
    (layOut start uses).map Slice.use = uses := by
  induction uses generalizing start with
  | nil => rfl
  | cons use uses ih => rw [layOut, List.map_cons, ih]

theorem use_mem_of_mem_layOut {start : Nat} {uses : List Use} {slice : Slice}
    (h : slice ∈ layOut start uses) : slice.use ∈ uses := by
  rw [← map_use_layOut start uses]
  exact List.mem_map_of_mem h

theorem start_le_of_mem_layOut {start : Nat} {uses : List Use} {slice : Slice}
    (h : slice ∈ layOut start uses) : start ≤ slice.start := by
  induction uses generalizing start with
  | nil => cases h
  | cons use uses ih =>
    rcases List.mem_cons.1 h with rfl | h
    · exact Nat.le_refl _
    · exact Nat.le_trans (Nat.le_add_right _ _) (ih h)

/-- No slice begins before the end of another that was drawn before it. -/
theorem pairwise_layOut (start : Nat) (uses : List Use) :
    (layOut start uses).Pairwise fun slice slice' => slice.stop ≤ slice'.start := by
  induction uses generalizing start with
  | nil => exact .nil
  | cons use uses ih => exact .cons (fun _ h => start_le_of_mem_layOut h) (ih _)

/-- The stream after some uses. -/
def Entropy.after (uses : List Use) (entropy : Entropy) : Entropy :=
  { entropy with taken := entropy.taken + Use.total uses }

@[simp] theorem Entropy.after_nil (entropy : Entropy) : entropy.after [] = entropy := rfl

theorem Entropy.after_append (uses uses' : List Use) (entropy : Entropy) :
    entropy.after (uses ++ uses') = (entropy.after uses).after uses' := by
  simp [after, Use.total_append, Nat.add_assoc]

/-! ## Keys of a supply -/

namespace KeySupply

/-- The key of a kind that the supply has made. -/
def key? : KeySupply → KeyKind → Option SecretKey
  | fixed _, _ => none
  | generated ring _, kind => ring.key? kind

/-- The supply makes a key of this kind when it is asked for one. -/
def lacks : KeySupply → KeyKind → Bool
  | fixed _, _ => false
  | generated ring _, kind => (ring.key? kind).isNone

/-- The keys that the supply has made have the lengths of their kinds. -/
def Sized (supply : KeySupply) : Prop :=
  ∀ kind key, supply.key? kind = some key → key.bytes.length = kind.length

/-- The supply makes its keys itself. -/
def Generates (supply : KeySupply) : Prop := ∃ ring warned, supply = generated ring warned

/-- What is drawn when the supply is asked for keys of some kinds. -/
def missing (supply : KeySupply) (kinds : List KeyKind) : List Use :=
  (kinds.filter supply.lacks).map .kept

variable {supply supply' : KeySupply} {kinds kinds' : List KeyKind} {kind : KeyKind}

theorem missing_append (supply : KeySupply) (kinds kinds' : List KeyKind) :
    supply.missing (kinds ++ kinds') = supply.missing kinds ++ supply.missing kinds' := by
  rw [missing, List.filter_append, List.map_append, missing, missing]

theorem missing_eq_nil (h : ∀ kind ∈ kinds, supply.lacks kind = false) :
    supply.missing kinds = [] := by
  have hnone : kinds.filter supply.lacks = [] :=
    List.filter_eq_nil_iff.2 fun kind hkind => by simp [h kind hkind]
  rw [missing, hnone, List.map_nil]

theorem missing_congr (h : ∀ kind ∈ kinds, supply.lacks kind = supply'.lacks kind) :
    supply.missing kinds = supply'.missing kinds := by
  rw [missing, missing, List.filter_congr h]

theorem kept_mem_missing_iff :
    .kept kind ∈ supply.missing kinds ↔ kind ∈ kinds ∧ supply.lacks kind := by
  simp [missing]

end KeySupply

/-! ## Spending -/

/-- A step from one state to another was asked for keys of `kinds` and drew the bytes of `uses`. -/
structure Spends (kinds : List KeyKind) (uses : List Use) (s s' : KeySupply × Entropy) : Prop where
  /-- The stream moved by the uses and no further. -/
  entropy : s'.2 = s.2.after uses
  /-- No key is made before it is asked for, and none is lacking then. -/
  lacks : ∀ kind, s'.1.lacks kind ↔ s.1.lacks kind ∧ kind ∉ kinds
  /-- A key is drawn exactly once if it was lacking, and not at all otherwise. -/
  once : ∀ kind, uses.count (.kept kind) = if s.1.lacks kind ∧ kind ∈ kinds then 1 else 0
  /-- What is drawn for a key is the key. -/
  made : ∀ slice ∈ layOut s.2.taken uses, ∀ kind, slice.use = .kept kind →
    s'.1.key? kind = some ⟨slice.bytes s.2⟩
  /-- Keys are never dropped or replaced. -/
  kept : ∀ kind key, s.1.key? kind = some key → s'.1.key? kind = some key
  sized : s.1.Sized → s'.1.Sized

namespace Spends

variable {kinds kinds' : List KeyKind} {uses uses' : List Use} {s s' s'' : KeySupply × Entropy}

/-- Keys that are there are given without drawing any bytes. -/
theorem of_settled (hentropy : s'.2 = s.2) (hkey : s'.1.key? = s.1.key?)
    (hlacks : s'.1.lacks = s.1.lacks) (h : ∀ kind ∈ kinds, s.1.lacks kind = false) :
    Spends kinds [] s s' := by
  have hnot : ∀ kind, ¬(s.1.lacks kind ∧ kind ∈ kinds) := by
    rintro kind ⟨hlacking, hkind⟩
    rw [h kind hkind] at hlacking
    cases hlacking
  exact {
    entropy := hentropy
    lacks := fun kind => by
      rw [hlacks]
      exact ⟨fun hlacking => ⟨hlacking, fun hkind => hnot kind ⟨hlacking, hkind⟩⟩, And.left⟩
    once := fun kind => by rw [List.count_nil, if_neg (hnot kind)]
    made := nofun
    kept := fun kind key hfound => by rwa [hkey]
    sized := fun hs => by rwa [KeySupply.Sized, hkey] }

theorem refl (s : KeySupply × Entropy) : Spends [] [] s s := of_settled rfl rfl rfl nofun

/-- Bytes that are drawn for no key of the supply. -/
theorem of_others (others : List Use) (h : ∀ use ∈ others, ∀ kind, use ≠ .kept kind)
    (supply : KeySupply) (entropy : Entropy) :
    Spends [] others (supply, entropy) (supply, entropy.after others) where
  entropy := rfl
  lacks kind := by simp
  once kind := by
    rw [if_neg fun hkind => List.not_mem_nil hkind.2]
    exact List.count_eq_zero.2 fun hkept => h _ hkept kind rfl
  made slice hslice kind huse := absurd huse (h _ (use_mem_of_mem_layOut hslice) kind)
  kept _ _ hkey := hkey
  sized hs := hs

theorem byte_eq (h : Spends kinds uses s s') : s'.2.byte = s.2.byte := by rw [h.entropy]; rfl

theorem taken_eq (h : Spends kinds uses s s') : s'.2.taken = s.2.taken + Use.total uses := by
  rw [h.entropy]; rfl

theorem trans (h : Spends kinds uses s s') (h' : Spends kinds' uses' s' s'') :
    Spends (kinds ++ kinds') (uses ++ uses') s s'' where
  entropy := by rw [h'.entropy, h.entropy, Entropy.after_append]
  lacks kind := by rw [h'.lacks, h.lacks, List.mem_append, not_or, and_assoc]
  once kind := by
    rw [List.count_append, h.once, h'.once]
    simp only [h.lacks, List.mem_append]
    by_cases hkind : kind ∈ kinds <;> simp [hkind]
  made slice hslice kind huse := by
    rw [layOut_append] at hslice
    rcases List.mem_append.1 hslice with hslice | hslice
    · exact h'.kept kind _ (h.made slice hslice kind huse)
    · rw [← h.taken_eq] at hslice
      rw [h'.made slice hslice kind huse, Slice.bytes_congr h.byte_eq]
  kept kind key hkey := h'.kept kind key (h.kept kind key hkey)
  sized hs := h'.sized (h.sized hs)

/-- A supply that makes its keys itself goes on to do so: each key that it lacked or had it has or
still lacks, and a supply of another sort neither has nor lacks any. -/
theorem generates (h : Spends kinds uses s s') (hs : s.1.Generates) : s'.1.Generates := by
  cases hsupply : s'.1 with
  | generated ring warned => exact ⟨ring, warned, rfl⟩
  | fixed answer =>
    have hnone : ∀ kind key, s'.1.key? kind ≠ some key := by
      rw [hsupply]
      exact fun _ _ => nofun
    have hnot : ¬s'.1.lacks .gmMac := by
      rw [hsupply]
      exact nofun
    obtain ⟨ring, warned, hring⟩ := hs
    cases hkey : ring.key? .gmMac with
    | some key => exact absurd (h.kept .gmMac key (by rw [hring]; exact hkey)) (hnone _ _)
    | none =>
      have hlacks : s.1.lacks .gmMac := by
        rw [hring, KeySupply.lacks, hkey]
        rfl
      have hasked : .gmMac ∈ kinds :=
        Decidable.not_not.1 fun hasked => hnot ((h.lacks .gmMac).2 ⟨hlacks, hasked⟩)
      have hcount := h.once .gmMac
      rw [if_pos ⟨hlacks, hasked⟩] at hcount
      have huse : Use.kept .gmMac ∈ (layOut s.2.taken uses).map Slice.use := by
        rw [map_use_layOut, ← List.count_pos_iff, hcount]
        exact Nat.one_pos
      obtain ⟨slice, hslice, hkept⟩ := List.mem_map.1 huse
      exact absurd (h.made slice hslice .gmMac hkept) (hnone _ _)

/-- Other kinds are asked for later. -/
theorem missing_eq (h : Spends kinds uses s s') (hdisjoint : ∀ kind ∈ kinds', kind ∉ kinds) :
    s'.1.missing kinds' = s.1.missing kinds' := by
  refine KeySupply.missing_congr fun kind hkind => ?_
  rw [Bool.eq_iff_iff, h.lacks, and_iff_left (hdisjoint kind hkind)]

end Spends

/-! ## Asking for keys -/

namespace KeyRing

/-- A key that was lacking is drawn and kept. -/
theorem spends_insert {ring : KeyRing} {warned warned' : Bool} {entropy : Entropy} {kind : KeyKind}
    (hlacks : (KeySupply.generated ring warned).lacks kind) :
    Spends [kind] [.kept kind] (.generated ring warned, entropy)
      (.generated (ring.insert kind ⟨entropy.slice entropy.taken kind.length⟩) warned',
        entropy.after [.kept kind]) := by
  have hother : ∀ k key, ring.key? k = some key → k ≠ kind := by
    rintro k key hkey rfl
    cases hkey.symm.trans (Option.isNone_iff_eq_none.1 hlacks)
  exact {
    entropy := rfl
    lacks := fun k => by
      by_cases hk : k = kind
      · simp [KeySupply.lacks, hk]
      · simp [KeySupply.lacks, key?_insert_of_ne ring _ hk, hk]
    once := fun k => by
      by_cases hk : k = kind
      · simp [hk, hlacks]
      · simp [hk, Ne.symm hk]
    made := fun slice hslice k huse => by
      cases List.mem_singleton.1 hslice
      cases huse
      exact key?_insert_self ring kind _
    kept := fun k key hkey => (key?_insert_of_ne ring _ (hother k key hkey)).trans hkey
    sized := fun hs k key hkey => by
      by_cases hk : k = kind
      · subst hk
        cases (key?_insert_self ring k _).symm.trans hkey
        exact Entropy.length_slice _ _ _
      · exact hs k key ((key?_insert_of_ne ring _ hk).symm.trans hkey) }

/-- A ring draws a key if it lacks it, and nothing otherwise. -/
theorem spends_get (kind : KeyKind) (ring : KeyRing) (warned warned' : Bool) (host : Host) :
    Spends [kind] ((KeySupply.generated ring warned).missing [kind])
      (.generated ring warned, host.entropy)
      (.generated (get kind (ring, host)).2.1 warned', (get kind (ring, host)).2.2.entropy) := by
  cases h : ring.key? kind with
  | some key =>
    have hlacks : ∀ k ∈ [kind], (KeySupply.generated ring warned).lacks k = false := by
      intro k hk
      rw [List.mem_singleton.1 hk, KeySupply.lacks, h]
      rfl
    rw [get_of_key? h, KeySupply.missing_eq_nil hlacks]
    exact Spends.of_settled rfl rfl rfl hlacks
  | none =>
    have hlacks : (KeySupply.generated ring warned).lacks kind := by
      rw [KeySupply.lacks, h]
      rfl
    have hmissing : (KeySupply.generated ring warned).missing [kind] = [.kept kind] := by
      simp [KeySupply.missing, hlacks]
    rw [get_of_missing h, hmissing]
    exact spends_insert hlacks

/-- The kinds of a pair are asked for in order, and what is missing is drawn in this order. -/
theorem spends_pairFor (suite : Suite) (ring : KeyRing) (warned warned' : Bool) (host : Host) :
    Spends (KeyKind.requiredBy suite)
      ((KeySupply.generated ring warned).missing (KeyKind.requiredBy suite))
      (.generated ring warned, host.entropy)
      (.generated (pairFor suite (ring, host)).2.1 warned',
        (pairFor suite (ring, host)).2.2.entropy) := by
  cases suite with
  | modern => exact spends_get .modernEncryption ring warned warned' host
  | gm =>
    have hkey := spends_get .gmEncryption ring warned warned host
    have hmac := spends_get .gmMac (get .gmEncryption (ring, host)).2.1 warned warned'
      (get .gmEncryption (ring, host)).2.2
    rw [hkey.missing_eq (by decide)] at hmac
    have h := hkey.trans hmac
    rwa [← KeySupply.missing_append] at h

end KeyRing

namespace KeySupply

theorem spends_fixed (answer : Suite → Except EnvelopeError KeyPair) (kinds : List KeyKind)
    (entropy : Entropy) :
    Spends kinds ((fixed answer).missing kinds) (fixed answer, entropy) (fixed answer, entropy) := by
  rw [missing_eq_nil fun _ _ => rfl]
  exact Spends.of_settled rfl rfl rfl fun _ _ => rfl

theorem entropy_warnOnce (warned : Bool) (host : Host) :
    (warnOnce warned host).entropy = host.entropy := by
  cases warned <;> rfl

theorem spends_pairFor (suite : Suite) (supply : KeySupply) (host : Host) :
    Spends (KeyKind.requiredBy suite) (supply.missing (KeyKind.requiredBy suite))
      (supply, host.entropy)
      ((pairFor suite (supply, host)).2.1, (pairFor suite (supply, host)).2.2.entropy) := by
  cases supply with
  | fixed answer => exact spends_fixed answer _ host.entropy
  | generated ring warned =>
    have h := KeyRing.spends_pairFor suite ring warned true (warnOnce warned host)
    rwa [entropy_warnOnce] at h

end KeySupply

end FieldSeal

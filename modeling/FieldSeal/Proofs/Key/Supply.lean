import FieldSeal.Key.Supply

/-!
# Keys that were handed out

A ring never drops or replaces a key (`KeyRing.Extends`), so the pair of a suite is settled as soon
as the ring has the keys for it (`KeyRing.pair?`). The same holds of supplies: what `pairFor` once
answered it answers from then on (`KeySupply.pairFor_of_pair?`), whatever else was asked between.
-/

namespace FieldSeal

namespace KeyRing

variable {ring ring' ring'' : KeyRing}

/-- Every key of the first ring is in the second. -/
def Extends (ring ring' : KeyRing) : Prop :=
  ∀ kind key, ring.key? kind = some key → ring'.key? kind = some key

theorem Extends.trans (h : ring.Extends ring') (h' : ring'.Extends ring'') :
    ring.Extends ring'' := fun kind key hkey => h' kind key (h kind key hkey)

/-- The keys that a suite needs, if the ring has them all. -/
def pair? (ring : KeyRing) : Suite → Option KeyPair
  | .modern =>
    match ring.key? .modernEncryption with
    | some key => some { encryption := some key }
    | none => none
  | .gm =>
    match ring.key? .gmEncryption, ring.key? .gmMac with
    | some key, some mac => some { encryption := some key, mac := some mac }
    | _, _ => none

theorem pair?_modern_iff {pair : KeyPair} :
    ring.pair? .modern = some pair ↔
      ∃ key, ring.key? .modernEncryption = some key ∧ pair = { encryption := some key } := by
  cases h : ring.key? .modernEncryption with
  | none => simp [pair?, h]
  | some key => simp [pair?, h, eq_comm]

theorem pair?_gm_iff {pair : KeyPair} :
    ring.pair? .gm = some pair ↔
      ∃ key mac, ring.key? .gmEncryption = some key ∧ ring.key? .gmMac = some mac ∧
        pair = { encryption := some key, mac := some mac } := by
  cases h : ring.key? .gmEncryption with
  | none => simp [pair?, h]
  | some key =>
    cases h' : ring.key? .gmMac with
    | none => simp [pair?, h, h']
    | some mac => simp [pair?, h, h', eq_comm]

theorem Extends.pair? (h : ring.Extends ring') {suite : Suite} {pair : KeyPair}
    (hpair : ring.pair? suite = some pair) : ring'.pair? suite = some pair := by
  cases suite with
  | gm =>
    obtain ⟨key, mac, hkey, hmac, rfl⟩ := pair?_gm_iff.1 hpair
    exact pair?_gm_iff.2 ⟨key, mac, h _ _ hkey, h _ _ hmac, rfl⟩
  | modern =>
    obtain ⟨key, hkey, rfl⟩ := pair?_modern_iff.1 hpair
    exact pair?_modern_iff.2 ⟨key, h _ _ hkey, rfl⟩

/-! ## Single keys -/

theorem get_of_key? {kind : KeyKind} {key : SecretKey} (h : ring.key? kind = some key)
    (host : Host) : get kind (ring, host) = (key, ring, host) := by
  simp only [get, h]

theorem get_of_missing {kind : KeyKind} (h : ring.key? kind = none) (host : Host) :
    get kind (ring, host) =
      ((generate kind (host.report (.generatedKey kind))).1,
        ring.insert kind (generate kind (host.report (.generatedKey kind))).1,
        (generate kind (host.report (.generatedKey kind))).2) := by
  simp only [get, h]

/-- The key that was given is in the ring. -/
theorem key?_get (kind : KeyKind) (state : KeyRing × Host) :
    (get kind state).2.1.key? kind = some (get kind state).1 := by
  obtain ⟨ring, host⟩ := state
  cases h : ring.key? kind with
  | none => rw [get_of_missing h, key?_insert_self]
  | some key => rw [get_of_key? h, h]

theorem extends_get (kind : KeyKind) (state : KeyRing × Host) :
    state.1.Extends (get kind state).2.1 := by
  obtain ⟨ring, host⟩ := state
  intro k key hkey
  cases h : ring.key? kind with
  | none =>
    have hne : k ≠ kind := by
      rintro rfl
      rw [h] at hkey
      cases hkey
    rw [get_of_missing h, key?_insert_of_ne _ _ hne]
    exact hkey
  | some found => rwa [get_of_key? h]

/-! ## Pairs -/

theorem pairFor_modern (state : KeyRing × Host) :
    pairFor .modern state =
      ({ encryption := some (get .modernEncryption state).1 }, (get .modernEncryption state).2) :=
  rfl

theorem pairFor_gm (state : KeyRing × Host) :
    pairFor .gm state =
      ({ encryption := some (get .gmEncryption state).1
         mac := some (get .gmMac (get .gmEncryption state).2).1 },
        (get .gmMac (get .gmEncryption state).2).2) :=
  rfl

theorem pair?_pairFor (suite : Suite) (state : KeyRing × Host) :
    (pairFor suite state).2.1.pair? suite = some (pairFor suite state).1 := by
  cases suite with
  | gm =>
    rw [pairFor_gm]
    exact pair?_gm_iff.2 ⟨_, _, extends_get _ _ _ _ (key?_get _ _), key?_get _ _, rfl⟩
  | modern =>
    rw [pairFor_modern]
    exact pair?_modern_iff.2 ⟨_, key?_get _ _, rfl⟩

theorem extends_pairFor (suite : Suite) (state : KeyRing × Host) :
    state.1.Extends (pairFor suite state).2.1 := by
  cases suite with
  | gm => exact (extends_get _ _).trans (extends_get _ _)
  | modern => exact extends_get _ _

theorem pairFor_of_pair? {suite : Suite} {pair : KeyPair} (h : ring.pair? suite = some pair)
    (host : Host) : pairFor suite (ring, host) = (pair, ring, host) := by
  cases suite with
  | gm =>
    obtain ⟨key, mac, hkey, hmac, rfl⟩ := pair?_gm_iff.1 h
    rw [pairFor_gm, get_of_key? hkey, get_of_key? hmac]
  | modern =>
    obtain ⟨key, hkey, rfl⟩ := pair?_modern_iff.1 h
    rw [pairFor_modern, get_of_key? hkey]

end KeyRing

namespace KeySupply

variable {supply supply' supply'' : KeySupply} {suite : Suite} {pair : KeyPair}

/-- The keys of a suite, if they are settled. -/
def pair? (supply : KeySupply) (suite : Suite) : Option KeyPair :=
  match supply with
  | .fixed answer => (answer suite).toOption
  | .generated ring _ => ring.pair? suite

/-- What the first supply has settled is so in the second. -/
def Extends (supply supply' : KeySupply) : Prop :=
  ∀ suite pair, supply.pair? suite = some pair → supply'.pair? suite = some pair

theorem Extends.refl (supply : KeySupply) : supply.Extends supply := fun _ _ h => h

theorem Extends.trans (h : supply.Extends supply') (h' : supply'.Extends supply'') :
    supply.Extends supply'' := fun suite pair hpair => h' suite pair (h suite pair hpair)

theorem extends_generated {ring ring' : KeyRing} (h : ring.Extends ring') (warned warned' : Bool) :
    (generated ring warned).Extends (generated ring' warned') := fun _ _ hpair => h.pair? hpair

theorem pair?_fixed_iff {answer : Suite → Except EnvelopeError KeyPair} :
    (fixed answer).pair? suite = some pair ↔ answer suite = .ok pair := by
  cases h : answer suite with
  | error e => simp [pair?, h, Except.toOption]
  | ok found => simp [pair?, h, Except.toOption]

/-- The host after the warning that generated keys are in use, which is given once. -/
def warnOnce (warned : Bool) (host : Host) : Host :=
  if warned then host else host.report .usingGeneratedKeys

theorem pairFor_fixed (answer : Suite → Except EnvelopeError KeyPair) (host : Host) :
    pairFor suite (.fixed answer, host) = (answer suite, .fixed answer, host) := rfl

theorem pairFor_generated (ring : KeyRing) (warned : Bool) (host : Host) :
    pairFor suite (.generated ring warned, host) =
      (.ok (KeyRing.pairFor suite (ring, warnOnce warned host)).1,
        .generated (KeyRing.pairFor suite (ring, warnOnce warned host)).2.1 true,
        (KeyRing.pairFor suite (ring, warnOnce warned host)).2.2) := rfl

/-- The answer of a supply is settled from then on. -/
theorem pair?_of_pairFor {host : Host} {state : KeySupply × Host}
    (h : pairFor suite (supply, host) = (.ok pair, state)) : state.1.pair? suite = some pair := by
  cases supply with
  | fixed answer =>
    rw [pairFor_fixed] at h
    obtain ⟨hanswer, rfl⟩ := Prod.mk.inj h
    exact pair?_fixed_iff.2 hanswer
  | generated ring warned =>
    rw [pairFor_generated] at h
    cases h
    exact KeyRing.pair?_pairFor suite (ring, warnOnce warned host)

theorem extends_pairFor (suite : Suite) (state : KeySupply × Host) :
    state.1.Extends (pairFor suite state).2.1 := by
  obtain ⟨supply, host⟩ := state
  cases supply with
  | fixed answer => exact Extends.refl _
  | generated ring warned =>
    rw [pairFor_generated]
    exact extends_generated (KeyRing.extends_pairFor suite (ring, warnOnce warned host)) _ _

/-- A settled pair is what the supply answers. -/
theorem pairFor_of_pair? (h : supply.pair? suite = some pair) (host : Host) :
    (pairFor suite (supply, host)).1 = .ok pair := by
  cases supply with
  | fixed answer => exact pair?_fixed_iff.1 h
  | generated ring warned =>
    have hpair : ring.pair? suite = some pair := h
    rw [pairFor_generated, KeyRing.pairFor_of_pair? hpair]

end KeySupply

end FieldSeal

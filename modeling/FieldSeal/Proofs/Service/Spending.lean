import FieldSeal.Proofs.Key.Spending
import FieldSeal.Proofs.Service.Readable

/-!
# Random bytes spent by a service

**Sealing.** A service can seal under the suite that the policy names if it offers the suite and the
supply serves it, that is, answers with keys of the right lengths (`sealing?`). It then spends the
keys that are missing and after them one nonce (`spends_encrypt`); if it cannot, it spends nothing
(`sealingUses_of_not_sealing`, `sameStore_encrypt_of_not_sealing`). Every envelope has the nonce that was drawn for it
(`nonce_of_encrypt`), and no text gets a nonce without an envelope unless it is too long for the
cipher (`exists_encrypt`).

**Opening** spends the keys that are missing for the suite of the envelope (`spends_decrypt`). The
other steps of a service leave supply and stream alone (`SameStore`).
-/

namespace FieldSeal

/-! ## Sealers -/

/-- The pair has all keys that the suite needs, in the right lengths. -/
def KeyPair.fits (pair : KeyPair) (suite : Suite) : Bool :=
  (KeyKind.requiredBy suite).all fun kind => (pair.require suite kind).isOk

/-- The text has more bytes than the block counter of the suite can number; for MODERN these are 256
GiB, for GM there is no such length. -/
def Suite.Overflows (suite : Suite) (text : String) : Prop :=
  suite = .modern ∧ ChaChaPoly.blockLimit ≤ (Utf8.encode text).length / 64

namespace KeyPair

variable {pair : KeyPair}

theorem fits_iff {suite : Suite} :
    pair.fits suite ↔
      ∀ kind ∈ KeyKind.requiredBy suite, ∃ key, pair.require suite kind = .ok key := by
  simp only [fits, List.all_eq_true, except_isOk_iff]

theorem fits_gm_iff : pair.fits .gm ↔ ∃ key mac, Sealer.Gm.keys pair = .ok (key, mac) := by
  simp only [fits_iff, Sealer.Gm.keys_eq_ok_iff, KeyKind.requiredBy, List.forall_mem_cons,
    List.not_mem_nil, false_imp_iff, implies_true, and_true, exists_and_left, exists_and_right]

theorem fits_modern_iff :
    pair.fits .modern ↔ ∃ key, pair.require .modern .modernEncryption = .ok key := by
  rw [fits_iff, KeyKind.requiredBy, List.forall_mem_singleton]

end KeyPair

namespace Sealer

variable {suite : Suite} {pair : KeyPair} {text : String} {entropy : Entropy} {e : Envelope}

/-- A sealer draws one nonce if it has its keys, and nothing otherwise. -/
theorem entropy_encrypt (suite : Suite) (pair : KeyPair) (text : String) (entropy : Entropy) :
    ((builtIn suite).encrypt pair text entropy).2 =
      if pair.fits suite then entropy.after [.nonce suite] else entropy := by
  cases suite with
  | gm =>
    show (Gm.encrypt pair text entropy).2 = _
    rw [Gm.encrypt_apply]
    cases hkeys : Gm.keys pair with
    | error cause =>
      rw [if_neg]
      rw [KeyPair.fits_gm_iff, hkeys]
      rintro ⟨_, _, ⟨⟩⟩
    | ok found =>
      rw [if_pos (KeyPair.fits_gm_iff.2 ⟨_, _, hkeys⟩)]
      dsimp only
      split <;> rfl
  | modern =>
    show (Modern.encrypt pair text entropy).2 = _
    rw [Modern.encrypt_apply]
    cases hkey : pair.require .modern .modernEncryption with
    | error cause =>
      rw [if_neg]
      rw [KeyPair.fits_modern_iff, hkey]
      rintro ⟨_, ⟨⟩⟩
    | ok key =>
      rw [if_pos (KeyPair.fits_modern_iff.2 ⟨_, hkey⟩)]
      dsimp only
      split <;> rfl

/-- The nonce of an envelope is what was drawn for it. -/
theorem nonce_of_encrypt (h : ((builtIn suite).encrypt pair text entropy).1 = .ok e) :
    pair.fits suite ∧ e.suite = suite ∧
      e.nonce = entropy.slice entropy.taken suite.nonceLength := by
  cases suite with
  | gm =>
    obtain ⟨-, hsuite, hnonce, key, mac, hkeys, -⟩ := Gm.encrypt_eq_ok_iff.1 (Prod.ext h rfl)
    exact ⟨KeyPair.fits_gm_iff.2 ⟨key, mac, hkeys⟩, hsuite, hnonce⟩
  | modern =>
    obtain ⟨-, hsuite, hnonce, key, hkey, -⟩ := Modern.encrypt_eq_ok_iff.1 (Prod.ext h rfl)
    exact ⟨KeyPair.fits_modern_iff.2 ⟨key, hkey⟩, hsuite, hnonce⟩

theorem exists_encrypt (hfits : pair.fits suite) (htext : ¬suite.Overflows text)
    (entropy : Entropy) : ∃ e, ((builtIn suite).encrypt pair text entropy).1 = .ok e := by
  cases suite with
  | gm =>
    obtain ⟨key, mac, hkeys⟩ := KeyPair.fits_gm_iff.1 hfits
    obtain ⟨e, he⟩ := Gm.exists_encrypt_eq_ok hkeys text entropy
    exact ⟨e, congrArg Prod.fst he⟩
  | modern =>
    obtain ⟨key, hkey⟩ := KeyPair.fits_modern_iff.1 hfits
    have hlimit : (Utf8.encode text).length / 64 < ChaChaPoly.blockLimit :=
      Nat.lt_of_not_le fun h => htext ⟨rfl, h⟩
    obtain ⟨e, he⟩ := Modern.exists_encrypt_eq_ok hkey hlimit entropy
    exact ⟨e, congrArg Prod.fst he⟩

end Sealer

/-! ## Supplies -/

namespace KeySupply

/-- The supply answers with keys for the suite, in the right lengths. -/
def serves : KeySupply → Suite → Bool
  | fixed answer, suite =>
    match answer suite with
    | .ok pair => pair.fits suite
    | .error _ => false
  | generated _ _, _ => true

/-- A pair of sized keys fits. -/
theorem fits_of_pair? {ring : KeyRing} {warned : Bool} (hsized : (generated ring warned).Sized)
    {suite : Suite} {pair : KeyPair} (h : ring.pair? suite = some pair) : pair.fits suite := by
  cases suite with
  | gm =>
    obtain ⟨key, mac, hkey, hmac, rfl⟩ := KeyRing.pair?_gm_iff.1 h
    exact KeyPair.fits_gm_iff.2
      ⟨key, mac, Sealer.Gm.keys_eq_ok rfl rfl (hsized _ key hkey) (hsized _ mac hmac)⟩
  | modern =>
    obtain ⟨key, hkey, rfl⟩ := KeyRing.pair?_modern_iff.1 h
    exact KeyPair.fits_modern_iff.2
      ⟨key, KeyPair.require_eq_ok_iff.2 ⟨rfl, hsized _ key hkey⟩⟩

/-- The pair that a supply answers fits exactly if the supply serves the suite. -/
theorem fits_iff_of_pairFor {supply : KeySupply} (hsized : supply.Sized) {suite : Suite}
    {host : Host} {pair : KeyPair} (h : (pairFor suite (supply, host)).1 = .ok pair) :
    pair.fits suite = supply.serves suite := by
  cases supply with
  | fixed answer =>
    have hanswer : answer suite = .ok pair := h
    rw [serves, hanswer]
  | generated ring warned =>
    have hsized' := (spends_pairFor suite (generated ring warned) host).sized hsized
    exact fits_of_pair? hsized' (pair?_of_pairFor (Prod.ext h rfl))

/-- A supply that gives no answer does not serve the suite. -/
theorem serves_of_pairFor_error {supply : KeySupply} {suite : Suite} {host : Host} {cause : EnvelopeError}
    (h : (pairFor suite (supply, host)).1 = .error cause) : supply.serves suite = false := by
  cases supply with
  | fixed answer =>
    have hanswer : answer suite = .error cause := h
    rw [serves, hanswer]
  | generated ring warned =>
    rw [pairFor_generated] at h
    cases h

/-- A supply that does not serve a suite makes no keys. -/
theorem lacks_eq_false_of_serves {supply : KeySupply} {suite : Suite}
    (h : supply.serves suite = false) (kind : KeyKind) : supply.lacks kind = false := by
  cases supply with
  | fixed answer => rfl
  | generated ring warned => cases h

end KeySupply

namespace Service

/-- The supply and the stream. -/
def store (s : Service) : KeySupply × Entropy := (s.supply, s.host.entropy)

/-! ## Steps that draw nothing -/

/-- Both services have the same supply and the same stream. -/
def SameStore (s s' : Service) : Prop := s'.store = s.store

instance : IsPreorder Service SameStore where
  refl _ := rfl
  trans _ _ _ h h' := h'.trans h

theorem sameStore_report (e : Event) : Action.Along SameStore (report e) := fun _ => rfl

/-- A lookup leaves the supply and the host alone. -/
theorem bindingFor_keeps (suite : Suite) (s : Service) :
    (bindingFor suite s).2.supply = s.supply ∧ (bindingFor suite s).2.host = s.host := by
  rcases bindingFor_cases suite s with ⟨kept, -, hrun⟩ | ⟨sealer, -, -, hrun⟩ | ⟨-, -, hrun⟩
  · rw [hrun]
    exact ⟨rfl, rfl⟩
  · rw [hrun]
    exact ⟨rfl, rfl⟩
  · rw [hrun]
    exact ⟨rfl, rfl⟩

theorem sameStore_bindingFor (suite : Suite) : Action.Along SameStore (bindingFor suite) := by
  intro s
  obtain ⟨hsupply, hhost⟩ := bindingFor_keeps suite s
  rw [SameStore, store, store, hsupply, hhost]

theorem sameStore_decryptWith (keys : KeyPair) (e : Envelope) :
    Action.Along SameStore (decryptWith keys e) := by
  refine Action.along_bind (sameStore_bindingFor e.suite) fun kept => ?_
  split
  · exact Action.along_bind (sameStore_report _) fun _ => Action.along_pure _
  · exact Action.along_bind (sameStore_report _) fun _ => Action.along_throw _
  · exact Action.along_throw _

/-! ## Steps that draw -/

variable {α β : Type} {s s' : Service} {kinds : List KeyKind} {uses : List Use} {suite : Suite}
  {text : String} {e : Envelope}

theorem spends_pairFor (suite : Suite) (s : Service) :
    Spends (KeyKind.requiredBy suite) (s.supply.missing (KeyKind.requiredBy suite)) s.store
      (pairFor suite s).2.store := KeySupply.spends_pairFor suite s.supply s.host

/-- What comes after a step that draws may draw nothing. -/
theorem spends_bind {a : Step α} {f : α → Step β} (ha : Spends kinds uses s.store (a s).2.store)
    (hf : ∀ x, Action.Along SameStore (f x)) :
    Spends kinds uses s.store ((a >>= f) s).2.store := by
  rcases hrun : a s with ⟨result, t⟩
  rw [hrun] at ha
  cases result with
  | error cause => rwa [Action.bind_of_error hrun]
  | ok x =>
    have hsame : (f x t).2.store = t.store := hf x t
    rwa [Action.bind_of_ok hrun, hsame]

theorem spends_decryptEnvelope (e : Envelope) (s : Service) :
    Spends (KeyKind.requiredBy e.suite) (s.supply.missing (KeyKind.requiredBy e.suite)) s.store
      (decryptEnvelope e s).2.store :=
  spends_bind (spends_pairFor e.suite s) fun keys => sameStore_decryptWith keys e

/-- The kinds of keys for which the service asks when it opens a text. -/
def openingKinds (wire : String) : List KeyKind :=
  match Envelope.parse wire with
  | .ok e => KeyKind.requiredBy e.suite
  | .error _ => []

theorem openingKinds_of_not_envelope {wire : String} (h : ¬Envelope.isEnvelope wire) :
    openingKinds wire = [] := by
  unfold openingKinds
  split
  · next hparse => exact absurd (Envelope.isEnvelope_of_parse hparse) h
  · rfl

theorem spends_decrypt (wire : String) (s : Service) :
    Spends (openingKinds wire) (s.supply.missing (openingKinds wire)) s.store
      (decrypt wire s).2.store := by
  unfold openingKinds
  rw [decrypt, Action.bind_apply, Action.ofExcept_apply]
  cases Envelope.parse wire with
  | error cause => exact Spends.refl _
  | ok e => exact spends_decryptEnvelope e s

/-! ## Sealing -/

instance (s : Service) (suite : Suite) : Decidable (s.Offers suite) :=
  inferInstanceAs (Decidable (_ ∨ _))

/-- The suite under which the service can seal the next text, if it can. -/
def sealing? (s : Service) : Option Suite :=
  if s.Offers s.policy.ask.1 ∧ s.supply.serves s.policy.ask.1 then some s.policy.ask.1 else none

theorem eq_of_sealing? {s : Service} {suite : Suite} (h : s.sealing? = some suite) :
    suite = s.policy.ask.1 := by
  unfold sealing? at h
  split at h
  · cases h
    rfl
  · cases h

/-- A service that has a sealer and yet cannot seal is not served with keys. -/
theorem serves_of_not_sealing {s : Service} (h : s.sealing? = none)
    (hoffers : s.Offers s.policy.ask.1) : s.supply.serves s.policy.ask.1 = false := by
  rw [← Bool.not_eq_true]
  intro hserves
  rw [sealing?, if_pos ⟨hoffers, hserves⟩] at h
  cases h

/-- The kinds of keys for which the service asks when it seals the next text. -/
def sealingKinds (s : Service) : List KeyKind :=
  if s.Offers s.policy.ask.1 then KeyKind.requiredBy s.policy.ask.1 else []

/-- What sealing does once the suite is bound. -/
def sealUnder (suite : Suite) (text : String) : Step Envelope := do
  let keys ← pairFor suite
  let envelope ← onEntropy ((Sealer.builtIn suite).encrypt keys text)
  report (.encrypted suite)
  return envelope

theorem encrypt_of_offers (hs : s.BuiltIn) (h : s.Offers s.policy.ask.1) (text : String) :
    ∃ s', s'.store = s.store ∧ encrypt text s = sealUnder s.policy.ask.1 text s' := by
  obtain ⟨kept, s', hkept⟩ := exists_bindingFor (s := { s with policy := s.policy.ask.2 }) h
  have hsealer := sealer_of_bindingFor ((along_activeSuite s).builtIn hs) hkept
  have hsame : SameStore { s with policy := s.policy.ask.2 } s' :=
    (sameStore_bindingFor _).of_eq hkept
  refine ⟨s', hsame, ?_⟩
  rw [encrypt, Action.bind_of_ok (activeSuite_apply s), Action.bind_of_ok hkept]
  simp only [Binding.encrypt, hsealer]
  rfl

theorem encrypt_of_not_offers (h : ¬s.Offers s.policy.ask.1) (text : String) :
    encrypt text s =
      (.error (.unsupported s.policy.ask.1), { s with policy := s.policy.ask.2 }) := by
  obtain ⟨hkept, hsealer⟩ := not_or.1 h
  have hmissing := bindingFor_of_missing (s := { s with policy := s.policy.ask.2 })
    (Option.not_isSome_iff_eq_none.1 hkept) (Option.not_isSome_iff_eq_none.1 hsealer)
  rw [encrypt, Action.bind_of_ok (activeSuite_apply s), Action.bind_of_error hmissing]

theorem sealUnder_of_error {cause : EnvelopeError} (h : pairFor suite s = (.error cause, s'))
    (text : String) : sealUnder suite text s = (.error cause, s') := Action.bind_of_error h _

theorem sealUnder_of_ok {pair : KeyPair} (h : pairFor suite s = (.ok pair, s')) (text : String) :
    (sealUnder suite text s).1 =
        ((Sealer.builtIn suite).encrypt pair text s'.host.entropy).1 ∧
      (sealUnder suite text s).2.store =
        (s'.supply, ((Sealer.builtIn suite).encrypt pair text s'.host.entropy).2) := by
  rw [sealUnder, Action.bind_of_ok h]
  rcases hrun : (Sealer.builtIn suite).encrypt pair text s'.host.entropy with ⟨result, entropy⟩
  have hentropy : onEntropy ((Sealer.builtIn suite).encrypt pair text) s' =
      (result, { s' with host := { s'.host with entropy } }) := by
    rw [onEntropy, Action.on_apply, hrun]
  cases result with
  | error cause =>
    rw [Action.bind_of_error hentropy]
    exact ⟨rfl, rfl⟩
  | ok e =>
    rw [Action.bind_of_ok hentropy]
    exact ⟨rfl, rfl⟩

/-- The keys come first, and then the nonce if the supply serves the suite. -/
theorem spends_sealUnder (hsized : s.supply.Sized) (suite : Suite) (text : String) :
    Spends (KeyKind.requiredBy suite)
      (s.supply.missing (KeyKind.requiredBy suite) ++
        if s.supply.serves suite then [.nonce suite] else [])
      s.store (sealUnder suite text s).2.store := by
  have hkeys := spends_pairFor suite s
  rcases hpair : pairFor suite s with ⟨result, s'⟩
  rw [hpair] at hkeys
  have hfst : (KeySupply.pairFor suite (s.supply, s.host)).1 = result := congrArg Prod.fst hpair
  cases result with
  | error cause =>
    rw [sealUnder_of_error hpair, KeySupply.serves_of_pairFor_error hfst]
    simpa using hkeys
  | ok pair =>
    obtain ⟨-, hstore⟩ := sealUnder_of_ok hpair text
    rw [hstore, Sealer.entropy_encrypt, KeySupply.fits_iff_of_pairFor hsized hfst]
    cases hserves : s.supply.serves suite with
    | true =>
      have hnonce := Spends.of_others [.nonce suite] (by simp) s'.supply s'.host.entropy
      simpa using hkeys.trans hnonce
    | false =>
      simp only [Bool.false_eq_true, if_false, List.append_nil]
      exact hkeys

theorem nonce_of_sealUnder (hsized : s.supply.Sized) (h : (sealUnder suite text s).1 = .ok e) :
    s.supply.serves suite ∧ e.suite = suite ∧
      e.nonce = s.host.entropy.slice (s.host.entropy.taken +
        Use.total (s.supply.missing (KeyKind.requiredBy suite))) suite.nonceLength := by
  have hkeys := spends_pairFor suite s
  rcases hpair : pairFor suite s with ⟨result, s'⟩
  rw [hpair] at hkeys
  have hfst : (KeySupply.pairFor suite (s.supply, s.host)).1 = result := congrArg Prod.fst hpair
  cases result with
  | error cause =>
    rw [sealUnder_of_error hpair] at h
    cases h
  | ok pair =>
    rw [(sealUnder_of_ok hpair text).1] at h
    obtain ⟨hfits, hsuite, hnonce⟩ := Sealer.nonce_of_encrypt h
    rw [KeySupply.fits_iff_of_pairFor hsized hfst] at hfits
    refine ⟨hfits, hsuite, ?_⟩
    have hentropy : s'.host.entropy = s.host.entropy.after _ := hkeys.entropy
    rw [hnonce, hentropy]
    rfl

theorem exists_sealUnder (hsized : s.supply.Sized) (hserves : s.supply.serves suite)
    (htext : ¬suite.Overflows text) : ∃ e, (sealUnder suite text s).1 = .ok e := by
  rcases hpair : pairFor suite s with ⟨result, s'⟩
  have hfst : (KeySupply.pairFor suite (s.supply, s.host)).1 = result := congrArg Prod.fst hpair
  cases result with
  | error cause =>
    rw [KeySupply.serves_of_pairFor_error hfst] at hserves
    cases hserves
  | ok pair =>
    rw [← KeySupply.fits_iff_of_pairFor hsized hfst] at hserves
    rw [(sealUnder_of_ok hpair text).1]
    exact Sealer.exists_encrypt hserves htext s'.host.entropy

/-- A supply that does not serve a suite was given, and is asked without consequences. -/
theorem sameStore_pairFor_of_not_serves (h : s.supply.serves suite = false) :
    SameStore s (pairFor suite s).2 := by
  rw [SameStore, store, store, pairFor, Action.on_apply]
  cases hsupply : s.supply with
  | fixed answer => rfl
  | generated ring warned =>
    rw [hsupply] at h
    cases h

/-- Without keys nothing is drawn. -/
theorem sameStore_sealUnder_of_not_serves (hsized : s.supply.Sized)
    (h : s.supply.serves suite = false) (text : String) :
    SameStore s (sealUnder suite text s).2 := by
  have hsame := sameStore_pairFor_of_not_serves h
  rcases hpair : pairFor suite s with ⟨result, s'⟩
  rw [hpair] at hsame
  cases result with
  | error cause => rwa [sealUnder_of_error hpair]
  | ok pair =>
    have hfits : pair.fits suite = false := by
      rw [KeySupply.fits_iff_of_pairFor hsized (congrArg Prod.fst hpair), h]
    rw [SameStore, (sealUnder_of_ok hpair text).2, Sealer.entropy_encrypt, hfits]
    exact hsame

theorem encryptWithMask_apply (text mask : String) (s : Service) :
    encryptWithMask text mask s = ((encrypt text s).1.bind (·.withMask mask), (encrypt text s).2) :=
  Action.bind_ofExcept_apply (encrypt text) (·.withMask mask) s

/-! ## What sealing draws -/

/-- What the service draws when it seals the next text. -/
def sealingUses (s : Service) : List Use :=
  s.supply.missing s.sealingKinds ++ s.sealing?.toList.map .nonce

theorem spends_encrypt (hs : s.BuiltIn) (hsized : s.supply.Sized) (text : String) :
    Spends s.sealingKinds s.sealingUses s.store (encrypt text s).2.store := by
  unfold sealingUses sealingKinds sealing?
  by_cases hoffers : s.Offers s.policy.ask.1
  · obtain ⟨s', hsame, hencrypt⟩ := encrypt_of_offers hs hoffers text
    obtain ⟨hsupply, hentropy⟩ := Prod.mk.inj hsame
    have hspends := spends_sealUnder (hsupply ▸ hsized) s.policy.ask.1 text
    rw [hsame, hsupply] at hspends
    rw [hencrypt, if_pos hoffers]
    cases hserves : s.supply.serves s.policy.ask.1 <;> simpa [hoffers, hserves] using hspends
  · rw [encrypt_of_not_offers hoffers, if_neg hoffers, if_neg (fun h => hoffers h.1)]
    exact Spends.refl _

/-- The nonce of an envelope is what was drawn last. -/
theorem nonce_of_encrypt (hs : s.BuiltIn) (hsized : s.supply.Sized)
    (h : (encrypt text s).1 = .ok e) :
    s.sealing? = some e.suite ∧
      e.nonce = s.host.entropy.slice
        (s.host.entropy.taken + Use.total (s.supply.missing s.sealingKinds))
        e.suite.nonceLength := by
  unfold sealingKinds sealing?
  by_cases hoffers : s.Offers s.policy.ask.1
  · obtain ⟨s', hsame, hencrypt⟩ := encrypt_of_offers hs hoffers text
    obtain ⟨hsupply, hentropy⟩ := Prod.mk.inj hsame
    rw [hencrypt] at h
    obtain ⟨hserves, hsuite, hnonce⟩ := nonce_of_sealUnder (hsupply ▸ hsized) h
    rw [hsupply] at hserves hnonce
    rw [hentropy] at hnonce
    rw [if_pos hoffers, if_pos ⟨hoffers, hserves⟩, hsuite]
    exact ⟨rfl, hnonce⟩
  · rw [encrypt_of_not_offers hoffers] at h
    cases h

theorem exists_encrypt (hs : s.BuiltIn) (hsized : s.supply.Sized) (h : s.sealing? = some suite)
    (htext : ¬suite.Overflows text) : ∃ e, (encrypt text s).1 = .ok e := by
  unfold sealing? at h
  split at h
  · next hseals =>
    cases h
    obtain ⟨s', hsame, hencrypt⟩ := encrypt_of_offers hs hseals.1 text
    obtain ⟨hsupply, -⟩ := Prod.mk.inj hsame
    rw [hencrypt]
    exact exists_sealUnder (hsupply ▸ hsized) (hsupply ▸ hseals.2) htext
  · cases h

/-- A service that cannot seal keeps its supply and its stream. -/
theorem sameStore_encrypt_of_not_sealing (hs : s.BuiltIn) (hsized : s.supply.Sized)
    (h : s.sealing? = none) (text : String) : SameStore s (encrypt text s).2 := by
  by_cases hoffers : s.Offers s.policy.ask.1
  · have hserves := serves_of_not_sealing h hoffers
    obtain ⟨s', hsame, hencrypt⟩ := encrypt_of_offers hs hoffers text
    obtain ⟨hsupply, -⟩ := Prod.mk.inj hsame
    have hseal := sameStore_sealUnder_of_not_serves (hsupply ▸ hsized) (hsupply ▸ hserves) text
    rw [hencrypt]
    exact trans_of SameStore hsame hseal
  · rw [encrypt_of_not_offers hoffers]
    rfl

/-- A service that cannot seal draws nothing. -/
theorem sealingUses_of_not_sealing (h : s.sealing? = none) : s.sealingUses = [] := by
  rw [sealingUses, h, Option.toList_none, List.map_nil, List.append_nil, sealingKinds]
  by_cases hoffers : s.Offers s.policy.ask.1
  · have hserves := serves_of_not_sealing h hoffers
    exact KeySupply.missing_eq_nil fun kind _ => KeySupply.lacks_eq_false_of_serves hserves kind
  · rw [if_neg hoffers]
    rfl

end Service

end FieldSeal

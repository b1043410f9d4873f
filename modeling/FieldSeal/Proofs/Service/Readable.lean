import FieldSeal.Proofs.Envelope.Wire
import FieldSeal.Proofs.Key.Supply
import FieldSeal.Proofs.Sealer.Inverse
import FieldSeal.Service

/-!
# What a service can open

**The invariant.** A service with built-in sealers only (`Service.BuiltIn`) opens an envelope when it
offers the suite of the envelope, the keys of the suite are settled, and the built-in sealer opens
the envelope with them (`Opens`). A text is `Readable` when it denotes such an envelope.

**Steps** (`Follows`). No step of a service takes a suite or a settled pair away, and none brings in
a foreign sealer, whether it succeeds or fails. So what is readable once stays readable.

**Sealing and opening.** What `encrypt` returns is readable in the state that it leaves
(`opens_of_encrypt`), and `decrypt` gives the text of whatever is readable (`decrypt_of_readable`).
-/

namespace FieldSeal

/-- Only built-in sealers are registered, each for its own suite. -/
def Registry.BuiltIn (r : Registry) : Prop :=
  ∀ suite sealer, r.sealer? suite = some sealer → sealer = .builtIn suite

theorem Registry.builtIn_empty : Registry.empty.BuiltIn := by
  intro suite sealer h
  cases h

theorem Registry.BuiltIn.register {r : Registry} (h : r.BuiltIn) (suite : Suite) :
    (r.register (.builtIn suite)).BuiltIn := by
  intro other sealer hsealer
  by_cases hother : other = suite
  · subst hother
    have hself := sealer?_register_self (.builtIn other) r
    rw [Sealer.suite_builtIn] at hself
    rw [hself, Option.some.injEq] at hsealer
    exact hsealer.symm
  · have hne : other ≠ (Sealer.builtIn suite).suite := by rwa [Sealer.suite_builtIn]
    rw [sealer?_register_of_ne r hne] at hsealer
    exact h other sealer hsealer

namespace Service

variable {s s' s'' : Service} {suite : Suite}

/-- Only built-in sealers are registered or bound. -/
structure BuiltIn (s : Service) : Prop where
  registry : s.registry.BuiltIn
  kept : ∀ suite kept, s.kept? suite = some kept → kept.binding.sealer = .builtIn suite

/-- There is a binding or a sealer for the suite. -/
def Offers (s : Service) (suite : Suite) : Prop :=
  (s.kept? suite).isSome ∨ (s.registry.sealer? suite).isSome

/-- The service has what it takes to open the envelope. -/
def Opens (s : Service) (e : Envelope) (text : String) : Prop :=
  s.Offers e.suite ∧ ∃ pair, s.supply.pair? e.suite = some pair ∧
    (Sealer.builtIn e.suite).decrypt pair e = .ok text

/-- The service has what it takes to open the text. -/
def Readable (s : Service) (wire text : String) : Prop :=
  ∃ e, Envelope.parse wire = .ok e ∧ s.Opens e text

/-! ## Steps -/

/-- The second service can do whatever the first one can. -/
structure Follows (s s' : Service) : Prop where
  builtIn : s.BuiltIn → s'.BuiltIn
  offers : ∀ suite, s.Offers suite → s'.Offers suite
  keys : s.supply.Extends s'.supply

theorem Follows.refl (s : Service) : Follows s s :=
  ⟨fun h => h, fun _ h => h, KeySupply.Extends.refl s.supply⟩

theorem Follows.trans (h : Follows s s') (h' : Follows s' s'') : Follows s s'' :=
  ⟨fun hs => h'.builtIn (h.builtIn hs), fun suite hs => h'.offers suite (h.offers suite hs),
    h.keys.trans h'.keys⟩

instance : IsPreorder Service Follows where
  refl := Follows.refl
  trans _ _ _ := Follows.trans

theorem Follows.opens (h : Follows s s') {e : Envelope} {text : String} (ho : s.Opens e text) :
    s'.Opens e text := by
  obtain ⟨hoffers, pair, hpair, hdecrypt⟩ := ho
  exact ⟨h.offers _ hoffers, pair, h.keys _ _ hpair, hdecrypt⟩

theorem Follows.readable (h : Follows s s') {wire text : String} (hr : s.Readable wire text) :
    s'.Readable wire text := by
  obtain ⟨e, hparse, hopens⟩ := hr
  exact ⟨e, hparse, h.opens hopens⟩

/-- A step that changes neither sealers nor bindings. -/
theorem follows_of_same (hregistry : s'.registry = s.registry) (hkept : s'.kept? = s.kept?)
    (hkeys : s.supply.Extends s'.supply) : Follows s s' := by
  refine ⟨fun h => ⟨?_, ?_⟩, fun suite h => ?_, hkeys⟩
  · rw [hregistry]
    exact h.registry
  · rw [hkept]
    exact h.kept
  · rw [Offers, hregistry, hkept]
    exact h

theorem along_report (e : Event) : Action.Along Follows (report e) := fun _ =>
  follows_of_same rfl rfl (KeySupply.Extends.refl _)

theorem along_onEntropy {α : Type} (a : Action Entropy EnvelopeError α) :
    Action.Along Follows (onEntropy a) := fun _ =>
  follows_of_same rfl rfl (KeySupply.Extends.refl _)

theorem along_activeSuite : Action.Along Follows activeSuite := fun _ =>
  follows_of_same rfl rfl (KeySupply.Extends.refl _)

theorem along_pairFor (suite : Suite) : Action.Along Follows (pairFor suite) := fun s =>
  follows_of_same rfl rfl (KeySupply.extends_pairFor suite (s.supply, s.host))

theorem along_register (suite : Suite) : Action.Along Follows (register (.builtIn suite)) := by
  intro s
  refine ⟨fun h => ⟨h.registry.register suite, fun other kept hkept => ?_⟩, fun other h => ?_,
    KeySupply.Extends.refl _⟩
  · by_cases hother : other = suite
    · simp [register, hother] at hkept
    · simp [register, hother] at hkept
      exact h.kept other kept hkept
  · by_cases hother : other = suite
    · right
      simp [register, Registry.register, hother]
    · have hoffers : s.Offers other := h
      simpa [Offers, register, Registry.register, hother] using hoffers

/-! ## Bindings -/

/-- The service with a suite newly bound to a sealer. -/
def keep (suite : Suite) (sealer : Sealer) (s : Service) : Service :=
  { s with
    kept? := fun other => if other = suite then some ⟨s.made, ⟨sealer⟩⟩ else s.kept? other
    made := s.made + 1 }

theorem bindingFor_of_kept {kept : Kept} (h : s.kept? suite = some kept) :
    bindingFor suite s = (.ok kept, s) := by
  simp only [bindingFor, h]

theorem bindingFor_of_registered {sealer : Sealer} (hkept : s.kept? suite = none)
    (h : s.registry.sealer? suite = some sealer) :
    bindingFor suite s = (.ok ⟨s.made, ⟨sealer⟩⟩, s.keep suite sealer) := by
  simp only [bindingFor, hkept, Binding.new, Registry.get, h]
  rfl

theorem bindingFor_of_missing (hkept : s.kept? suite = none)
    (h : s.registry.sealer? suite = none) :
    bindingFor suite s = (.error (.unsupported suite), s) := by
  simp only [bindingFor, hkept, Binding.new, Registry.get, h]
  rfl

theorem activeSuite_apply (s : Service) :
    activeSuite s = (.ok s.policy.ask.1, { s with policy := s.policy.ask.2 }) := rfl

/-- A lookup finds the binding that is kept, or binds the suite to the sealer that is registered, or
fails. -/
theorem bindingFor_cases (suite : Suite) (s : Service) :
    (∃ kept, s.kept? suite = some kept ∧ bindingFor suite s = (.ok kept, s)) ∨
    (∃ sealer, s.kept? suite = none ∧ s.registry.sealer? suite = some sealer ∧
      bindingFor suite s = (.ok ⟨s.made, ⟨sealer⟩⟩, s.keep suite sealer)) ∨
    (s.kept? suite = none ∧ s.registry.sealer? suite = none ∧
      bindingFor suite s = (.error (.unsupported suite), s)) := by
  cases hkept : s.kept? suite with
  | some kept => exact .inl ⟨kept, rfl, bindingFor_of_kept hkept⟩
  | none =>
    cases hsealer : s.registry.sealer? suite with
    | some sealer =>
      exact .inr (.inl ⟨sealer, rfl, rfl, bindingFor_of_registered hkept hsealer⟩)
    | none => exact .inr (.inr ⟨rfl, rfl, bindingFor_of_missing hkept hsealer⟩)

theorem follows_keep {sealer : Sealer} (h : s.registry.sealer? suite = some sealer) :
    Follows s (s.keep suite sealer) := by
  refine ⟨fun hs => ⟨hs.registry, fun other kept hkept => ?_⟩, fun other ho => ?_,
    KeySupply.Extends.refl _⟩
  · by_cases hother : other = suite
    · simp [keep, hother] at hkept
      rw [hother, ← hkept]
      exact hs.registry suite sealer h
    · simp [keep, hother] at hkept
      exact hs.kept other kept hkept
  · by_cases hother : other = suite
    · left
      simp [keep, hother]
    · have hoffers : s.Offers other := ho
      simpa [Offers, keep, hother] using hoffers

theorem along_bindingFor (suite : Suite) : Action.Along Follows (bindingFor suite) := by
  intro s
  rcases bindingFor_cases suite s with ⟨kept, -, hrun⟩ | ⟨sealer, -, hsealer, hrun⟩ | ⟨-, -, hrun⟩
  · rw [hrun]
    exact Follows.refl s
  · rw [hrun]
    exact follows_keep hsealer
  · rw [hrun]
    exact Follows.refl s

/-- A binding that was found is in the state after it. -/
theorem kept?_of_bindingFor {kept : Kept} (h : bindingFor suite s = (.ok kept, s')) :
    s'.kept? suite = some kept := by
  rcases bindingFor_cases suite s with ⟨found, hkept, hrun⟩ | ⟨sealer, -, -, hrun⟩ | ⟨-, -, hrun⟩
  · cases hrun.symm.trans h
    exact hkept
  · cases hrun.symm.trans h
    exact if_pos rfl
  · cases hrun.symm.trans h

theorem exists_bindingFor (h : s.Offers suite) : ∃ kept s', bindingFor suite s = (.ok kept, s') := by
  rcases bindingFor_cases suite s with ⟨kept, -, hrun⟩ | ⟨sealer, -, -, hrun⟩ | ⟨hkept, hsealer, -⟩
  · exact ⟨_, _, hrun⟩
  · exact ⟨_, _, hrun⟩
  · simp [Offers, hkept, hsealer] at h

/-- With built-in sealers only, a suite is bound to its own. -/
theorem sealer_of_bindingFor (hs : s.BuiltIn) {kept : Kept}
    (h : bindingFor suite s = (.ok kept, s')) : kept.binding.sealer = .builtIn suite := by
  have hfollows := along_bindingFor suite s
  rw [h] at hfollows
  exact (hfollows.builtIn hs).kept suite kept (kept?_of_bindingFor h)

/-! ## Sealing -/

theorem along_encrypt (text : String) : Action.Along Follows (encrypt text) := by
  refine Action.along_bind along_activeSuite fun suite => ?_
  refine Action.along_bind (along_bindingFor suite) fun kept => ?_
  refine Action.along_bind (along_pairFor suite) fun keys => ?_
  refine Action.along_bind (along_onEntropy _) fun envelope => ?_
  refine Action.along_bind (along_report _) fun _ => ?_
  exact Action.along_pure envelope

theorem along_encryptWithMask (text mask : String) :
    Action.Along Follows (encryptWithMask text mask) := by
  refine Action.along_bind (along_encrypt text) fun envelope => ?_
  exact Action.along_ofExcept _

theorem pair?_of_pairFor {pair : KeyPair} (h : pairFor suite s = (.ok pair, s')) :
    s'.supply.pair? suite = some pair := by
  obtain ⟨state, hstate, rfl⟩ := Action.on_eq_ok_iff.1 h
  exact KeySupply.pair?_of_pairFor hstate

/-- What was sealed can be opened from then on. -/
theorem opens_of_encrypt (hs : s.BuiltIn) {text : String} {e : Envelope}
    (h : encrypt text s = (.ok e, s')) :
    s'.Opens e text ∧ e.nonce.length = e.suite.nonceLength := by
  obtain ⟨suite, s₁, hsuite, h⟩ := Action.bind_eq_ok_iff.1 h
  obtain ⟨kept, s₂, hkept, h⟩ := Action.bind_eq_ok_iff.1 h
  obtain ⟨pair, s₃, hpair, h⟩ := Action.bind_eq_ok_iff.1 h
  obtain ⟨envelope, s₄, hencrypt, h⟩ := Action.bind_eq_ok_iff.1 h
  obtain ⟨logged, s₅, hreport, h⟩ := Action.bind_eq_ok_iff.1 h
  obtain ⟨rfl, rfl⟩ : envelope = e ∧ s₅ = s' := by
    cases h
    exact ⟨rfl, rfl⟩
  have h₁ := along_activeSuite s
  have h₃ := along_pairFor suite s₂
  have h₄ := along_onEntropy (kept.binding.encrypt pair text) s₃
  have h₅ := along_report (.encrypted suite) s₄
  rw [hsuite] at h₁
  rw [hpair] at h₃
  rw [hencrypt] at h₄
  rw [hreport] at h₅
  have hsealer := sealer_of_bindingFor (h₁.builtIn hs) hkept
  obtain ⟨after, hsealed, -⟩ := Action.on_eq_ok_iff.1 hencrypt
  rw [Binding.encrypt, hsealer] at hsealed
  obtain ⟨rfl, hlen, hdecrypt⟩ := Sealer.decrypt_of_encrypt hsealed
  have hoffers : s₂.Offers envelope.suite := by
    left
    rw [kept?_of_bindingFor hkept]
    rfl
  have hopens : s₃.Opens envelope text :=
    ⟨h₃.offers _ hoffers, pair, pair?_of_pairFor hpair, hdecrypt⟩
  exact ⟨(h₄.trans h₅).opens hopens, hlen⟩

theorem readable_of_encryptWithMask (hs : s.BuiltIn) {text mask wire : String}
    (h : encryptWithMask text mask s = (.ok wire, s')) : s'.Readable wire text := by
  obtain ⟨e, s₁, hencrypt, h⟩ := Action.bind_eq_ok_iff.1 h
  obtain ⟨hopens, hlen⟩ := opens_of_encrypt hs hencrypt
  obtain ⟨hmask, rfl⟩ := Prod.mk.inj h
  exact ⟨e, Envelope.parse_of_withMask hlen hmask, hopens⟩

/-! ## Opening -/

theorem along_decryptWith (keys : KeyPair) (e : Envelope) :
    Action.Along Follows (decryptWith keys e) := by
  refine Action.along_bind (along_bindingFor e.suite) fun kept => ?_
  split
  · refine Action.along_bind (along_report _) fun _ => ?_
    exact Action.along_pure _
  · refine Action.along_bind (along_report _) fun _ => ?_
    exact Action.along_throw _
  · exact Action.along_throw _

theorem along_decryptEnvelope (e : Envelope) : Action.Along Follows (decryptEnvelope e) := by
  refine Action.along_bind (along_pairFor e.suite) fun keys => ?_
  exact along_decryptWith keys e

theorem along_decrypt (wire : String) : Action.Along Follows (decrypt wire) := by
  refine Action.along_bind (Action.along_ofExcept _) fun e => ?_
  exact along_decryptEnvelope e

theorem pairFor_of_pair? {pair : KeyPair} (h : s.supply.pair? suite = some pair) :
    ∃ s', pairFor suite s = (.ok pair, s') :=
  Action.exists_state_of_fst (KeySupply.pairFor_of_pair? h s.host)

theorem decryptWith_of_decrypt (hs : s.BuiltIn) {keys : KeyPair} {e : Envelope} {text : String}
    (hoffers : s.Offers e.suite) (h : (Sealer.builtIn e.suite).decrypt keys e = .ok text) :
    (decryptWith keys e s).1 = .ok text := by
  obtain ⟨kept, s₁, hkept⟩ := exists_bindingFor hoffers
  have hdecrypt : kept.binding.decrypt keys e = .ok text := by
    rw [Binding.decrypt, sealer_of_bindingFor hs hkept, h]
  rw [decryptWith, Action.bind_of_ok hkept, hdecrypt]
  rfl

theorem decryptEnvelope_of_opens (hs : s.BuiltIn) {e : Envelope} {text : String}
    (h : s.Opens e text) : (decryptEnvelope e s).1 = .ok text := by
  obtain ⟨hoffers, pair, hpair, hdecrypt⟩ := h
  obtain ⟨s₁, hs₁⟩ := pairFor_of_pair? hpair
  have hfollows := along_pairFor e.suite s
  rw [hs₁] at hfollows
  rw [decryptEnvelope, Action.bind_of_ok hs₁]
  exact decryptWith_of_decrypt (hfollows.builtIn hs) (hfollows.offers _ hoffers) hdecrypt

/-- A readable text is opened. -/
theorem decrypt_of_readable (hs : s.BuiltIn) {wire text : String} (h : s.Readable wire text) :
    (decrypt wire s).1 = .ok text := by
  obtain ⟨e, hparse, hopens⟩ := h
  have hofExcept : (Action.ofExcept (Envelope.parse wire) : Step Envelope) s = (.ok e, s) := by
    rw [Action.ofExcept_apply, hparse]
  rw [decrypt, Action.bind_of_ok hofExcept]
  exact decryptEnvelope_of_opens hs hopens

end Service

end FieldSeal

import FieldSeal.Proofs.Service.Spending

/-!
# Looking up bindings

**Lookups** (`Looks`). A step of a service looks up the binding of one suite or of none. What the
lookup finds (`found?`) is kept from then on, a failed lookup keeps nothing, and all other bindings
and the registry stay as they are. Only registering a sealer does more.

**Answers.** What sealing and opening answer is settled by the sealer that the lookup finds
(`Uses`): the keys come from the supply, the random bytes from the host, and nothing else of the
service has a say in it. With built-in sealers only, a text is opened with the sealer of its own
suite or with none (`decrypt_eq`).
-/

namespace FieldSeal.Service

variable {α : Type} {s s' s'' : Service} {suite : Suite} {suite? : Option Suite} {kept : Kept}

/-! ## Lookups -/

/-- What a lookup of the suite finds: the binding that is kept, or else a new one to the sealer that
is registered. -/
def found? (s : Service) (suite : Suite) : Option Kept :=
  (s.kept? suite).or ((s.registry.sealer? suite).map fun sealer => ⟨s.made, ⟨sealer⟩⟩)

theorem found?_of_kept (h : s.kept? suite = some kept) : s.found? suite = some kept := by
  rw [found?, h, Option.some_or]

theorem found?_of_not_kept (h : s.kept? suite = none) :
    s.found? suite = (s.registry.sealer? suite).map fun sealer => ⟨s.made, ⟨sealer⟩⟩ := by
  rw [found?, h, Option.none_or]

theorem bindingFor_eq_ok_iff : (bindingFor suite s).1 = .ok kept ↔ s.found? suite = some kept := by
  rcases bindingFor_cases suite s with
    ⟨found, hkept, hrun⟩ | ⟨sealer, hkept, hsealer, hrun⟩ | ⟨hkept, hsealer, hrun⟩
  · rw [hrun, found?_of_kept hkept, Except.ok.injEq, Option.some.injEq]
  · rw [hrun, found?_of_not_kept hkept, hsealer, Option.map_some, Except.ok.injEq,
      Option.some.injEq]
  · rw [hrun, found?_of_not_kept hkept, hsealer]
    exact ⟨nofun, nofun⟩

/-- A lookup that fails leaves everything as it was. -/
theorem of_bindingFor_eq_error {cause : EnvelopeError}
    (h : bindingFor suite s = (.error cause, s')) :
    cause = .unsupported suite ∧ s' = s ∧ s.kept? suite = none ∧
      s.registry.sealer? suite = none := by
  rcases bindingFor_cases suite s with
    ⟨found, -, hrun⟩ | ⟨sealer, -, -, hrun⟩ | ⟨hkept, hsealer, hrun⟩
  · cases hrun.symm.trans h
  · cases hrun.symm.trans h
  · cases hrun.symm.trans h
    exact ⟨rfl, rfl, hkept, hsealer⟩

/-- Both services have the same registry and the same bindings. -/
structure SameBindings (s s' : Service) : Prop where
  registry : s'.registry = s.registry
  kept? : s'.kept? = s.kept?
  made : s'.made = s.made

instance : IsPreorder Service SameBindings where
  refl _ := ⟨rfl, rfl, rfl⟩
  trans _ _ _ h h' := ⟨h'.registry.trans h.registry, h'.kept?.trans h.kept?, h'.made.trans h.made⟩

theorem SameBindings.found? (h : SameBindings s s') (suite : Suite) :
    s'.found? suite = s.found? suite := by
  rw [Service.found?, Service.found?, h.registry, h.kept?, h.made]

theorem sameBindings_report (e : Event) : Action.Along SameBindings (report e) :=
  fun _ => ⟨rfl, rfl, rfl⟩

theorem sameBindings_onEntropy (a : Action Entropy EnvelopeError α) :
    Action.Along SameBindings (onEntropy a) := fun _ => ⟨rfl, rfl, rfl⟩

theorem sameBindings_activeSuite : Action.Along SameBindings activeSuite :=
  fun _ => ⟨rfl, rfl, rfl⟩

theorem sameBindings_pairFor (suite : Suite) : Action.Along SameBindings (pairFor suite) :=
  fun _ => ⟨rfl, rfl, rfl⟩

/-- A step that looks up the suite, or no suite at all. -/
structure Looks (suite? : Option Suite) (s s' : Service) : Prop where
  registry : s'.registry = s.registry
  kept? : ∀ suite, s'.kept? suite = if suite? = some suite then s.found? suite else s.kept? suite

theorem SameBindings.looks (h : SameBindings s s') : Looks none s s' := by
  refine ⟨h.registry, fun suite => ?_⟩
  rw [h.kept?, if_neg nofun]

theorem SameBindings.looks_trans (h : SameBindings s s') (h' : Looks suite? s' s'') :
    Looks suite? s s'' := by
  refine ⟨h'.registry.trans h.registry, fun suite => ?_⟩
  rw [h'.kept?, h.found?, h.kept?]

theorem Looks.trans_same (h : Looks suite? s s') (h' : SameBindings s' s'') :
    Looks suite? s s'' := by
  refine ⟨h'.registry.trans h.registry, fun suite => ?_⟩
  rw [h'.kept?, h.kept?]

theorem looks_bindingFor (suite : Suite) (s : Service) :
    Looks (some suite) s (bindingFor suite s).2 := by
  rcases bindingFor_cases suite s with
    ⟨kept, hkept, hrun⟩ | ⟨sealer, hkept, hsealer, hrun⟩ | ⟨hkept, hsealer, hrun⟩
  · rw [hrun]
    refine ⟨rfl, fun other => ?_⟩
    split
    · next h =>
      cases h
      rw [hkept, found?_of_kept hkept]
    · rfl
  · rw [hrun]
    refine ⟨rfl, fun other => ?_⟩
    split
    · next h =>
      cases h
      rw [found?_of_not_kept hkept, hsealer]
      exact if_pos rfl
    · next h => exact if_neg fun hother => h (congrArg some hother.symm)
  · rw [hrun]
    refine ⟨rfl, fun other => ?_⟩
    split
    · next h =>
      cases h
      rw [found?_of_not_kept hkept, hsealer, hkept]
      rfl
    · rfl

/-- What is done with a binding that was found looks up nothing else. -/
theorem looks_bindingFor_bind {f : Kept → Step α} (hf : ∀ kept, Action.Along SameBindings (f kept))
    (suite : Suite) (s : Service) : Looks (some suite) s ((bindingFor suite >>= f) s).2 := by
  have hlooks := looks_bindingFor suite s
  rcases hrun : bindingFor suite s with ⟨result, t⟩
  rw [hrun] at hlooks
  cases result with
  | error cause => rwa [Action.bind_of_error hrun]
  | ok kept =>
    rw [Action.bind_of_ok hrun]
    exact hlooks.trans_same (hf kept t)

/-! ### Sealing and opening -/

theorem looks_encrypt (text : String) (s : Service) :
    Looks (some s.policy.ask.1) s (encrypt text s).2 := by
  rw [encrypt, Action.bind_of_ok (activeSuite_apply s)]
  refine (sameBindings_activeSuite s).looks_trans (looks_bindingFor_bind (fun kept => ?_) _ _)
  refine Action.along_bind (sameBindings_pairFor _) fun keys => ?_
  refine Action.along_bind (sameBindings_onEntropy _) fun envelope => ?_
  exact Action.along_bind (sameBindings_report _) fun _ => Action.along_pure envelope

theorem looks_decryptWith (keys : KeyPair) (e : Envelope) (s : Service) :
    Looks (some e.suite) s (decryptWith keys e s).2 := by
  refine looks_bindingFor_bind (fun kept => ?_) e.suite s
  split
  · exact Action.along_bind (sameBindings_report _) fun _ => Action.along_pure _
  · exact Action.along_bind (sameBindings_report _) fun _ => Action.along_throw _
  · exact Action.along_throw _

/-- The suite that is looked up to open an envelope; none if there are no keys for it. -/
def openingSuite? (s : Service) (e : Envelope) : Option Suite :=
  if (pairFor e.suite s).1.isOk then some e.suite else none

theorem looks_decryptEnvelope (e : Envelope) (s : Service) :
    Looks (s.openingSuite? e) s (decryptEnvelope e s).2 := by
  unfold openingSuite?
  have hsame := sameBindings_pairFor e.suite s
  rcases hrun : pairFor e.suite s with ⟨result, t⟩
  rw [hrun] at hsame
  cases result with
  | error cause =>
    rw [decryptEnvelope, Action.bind_of_error hrun]
    exact hsame.looks
  | ok keys =>
    rw [decryptEnvelope, Action.bind_of_ok hrun]
    exact hsame.looks_trans (looks_decryptWith keys e t)

/-- The suite that is looked up to open a text. -/
def readingSuite? (s : Service) (wire : String) : Option Suite :=
  match Envelope.parse wire with
  | .ok e => s.openingSuite? e
  | .error _ => none

theorem looks_decrypt (wire : String) (s : Service) :
    Looks (s.readingSuite? wire) s (decrypt wire s).2 := by
  unfold readingSuite?
  rw [decrypt, Action.bind_apply, Action.ofExcept_apply]
  cases Envelope.parse wire with
  | error cause => exact SameBindings.looks ⟨rfl, rfl, rfl⟩
  | ok e => exact looks_decryptEnvelope e s

theorem readingSuite?_of_not_isEnvelope {wire : String} (h : ¬Envelope.isEnvelope wire) :
    s.readingSuite? wire = none := by
  unfold readingSuite?
  split
  · next hparse => exact absurd (Envelope.isEnvelope_of_parse hparse) h
  · rfl

/-! ## Answers -/

/-- What a sealer answers to a text, with keys from the supply and random bytes from the host. -/
def sealedBy (sealer : Sealer) (suite : Suite) (text : String) (s : Service) :
    Except EnvelopeError Envelope := do
  let keys ← (pairFor suite s).1
  (sealer.encrypt keys text (pairFor suite s).2.host.entropy).1

/-- What a sealer answers to an envelope, with keys from the supply. -/
def openedBy (sealer : Sealer) (e : Envelope) (s : Service) : Except EnvelopeError String := do
  let keys ← (pairFor e.suite s).1
  sealer.decrypt keys e

/-- Under the suite, the service seals and opens with this sealer. -/
structure Uses (s : Service) (suite : Suite) (sealer : Sealer) : Prop where
  seals : ∀ text, s.policy.ask.1 = suite →
    (encrypt text s).1 = sealedBy sealer suite text s
  opensWith : ∀ keys e, e.suite = suite → (decryptWith keys e s).1 = sealer.decrypt keys e
  opens : ∀ e, e.suite = suite → (decryptEnvelope e s).1 = openedBy sealer e s
  reads : ∀ wire e, Envelope.parse wire = .ok e → e.suite = suite →
    (decrypt wire s).1 = openedBy sealer e s

/-- Supply and host are all that has a say in what the keys are and what is left for a nonce. -/
theorem pairFor_congr (hsupply : s'.supply = s.supply) (hhost : s'.host = s.host) (suite : Suite) :
    (pairFor suite s').1 = (pairFor suite s).1 ∧
      (pairFor suite s').2.host = (pairFor suite s).2.host := by
  simp only [pairFor, Action.on_apply, hsupply, hhost, and_self]

/-- A report at the end does not change the answer. -/
theorem bind_report_answer (a : Step α) (e : Event) (s : Service) :
    ((a >>= fun x => report e >>= fun _ => pure x) s).1 = (a s).1 := by
  rw [Action.bind_answer]
  exact bind_pure _

theorem encrypt_of_found (text : String) (h : s.found? s.policy.ask.1 = some kept) :
    (encrypt text s).1 = sealedBy kept.binding.sealer s.policy.ask.1 text s := by
  have hfound : (bindingFor s.policy.ask.1 { s with policy := s.policy.ask.2 }).1 = .ok kept :=
    bindingFor_eq_ok_iff.2 h
  obtain ⟨hsupply, hhost⟩ := bindingFor_keeps s.policy.ask.1 { s with policy := s.policy.ask.2 }
  obtain ⟨hkeys, hleft⟩ := pairFor_congr (s := s) hsupply hhost s.policy.ask.1
  rw [encrypt, Action.bind_of_ok (activeSuite_apply s), Action.bind_of_ok (Prod.ext hfound rfl),
    Action.bind_answer, sealedBy, hkeys]
  refine bind_congr fun keys => ?_
  rw [bind_report_answer, ← hleft]
  rfl

theorem decryptWith_of_found {keys : KeyPair} {e : Envelope} (h : s.found? e.suite = some kept) :
    (decryptWith keys e s).1 = kept.binding.sealer.decrypt keys e := by
  have hfound := bindingFor_eq_ok_iff.2 h
  rw [decryptWith, Action.bind_of_ok (Prod.ext hfound rfl), Binding.decrypt]
  cases kept.binding.sealer.decrypt keys e with
  | ok text => rfl
  | error cause => cases cause <;> rfl

theorem decryptEnvelope_of_found {e : Envelope} (h : s.found? e.suite = some kept) :
    (decryptEnvelope e s).1 = openedBy kept.binding.sealer e s := by
  rw [decryptEnvelope, Action.bind_answer, openedBy]
  refine bind_congr fun keys => ?_
  exact decryptWith_of_found (((sameBindings_pairFor e.suite s).found? e.suite).trans h)

theorem decryptWith_of_not_found {keys : KeyPair} {e : Envelope} (h : s.found? e.suite = none) :
    (decryptWith keys e s).1 = .error (.unsupported e.suite) := by
  obtain ⟨hkept, hsealer⟩ := Option.or_eq_none_iff.1 h
  have hmissing := bindingFor_of_missing hkept (Option.map_eq_none_iff.1 hsealer)
  rw [decryptWith, Action.bind_of_error hmissing]

/-- Without a sealer the keys are still asked for first. -/
theorem decryptEnvelope_of_not_found {e : Envelope} (h : s.found? e.suite = none) :
    (decryptEnvelope e s).1 = (pairFor e.suite s).1 >>= fun _ => .error (.unsupported e.suite) := by
  rw [decryptEnvelope, Action.bind_answer]
  refine bind_congr fun keys => ?_
  exact decryptWith_of_not_found (((sameBindings_pairFor e.suite s).found? e.suite).trans h)

theorem decrypt_of_parse {wire : String} {e : Envelope} (h : Envelope.parse wire = .ok e)
    (s : Service) : decrypt wire s = decryptEnvelope e s := by
  have hofExcept : (Action.ofExcept (Envelope.parse wire) : Step Envelope) s = (.ok e, s) := by
    rw [Action.ofExcept_apply, h]
  rw [decrypt, Action.bind_of_ok hofExcept]

/-- Whatever is sealed or opened under a suite passes through the sealer of its binding. -/
theorem uses_of_found (h : s.found? suite = some kept) : s.Uses suite kept.binding.sealer where
  seals text hsuite := by
    subst hsuite
    exact encrypt_of_found text h
  opensWith keys e hsuite := by
    subst hsuite
    exact decryptWith_of_found h
  opens e hsuite := by
    subst hsuite
    exact decryptEnvelope_of_found h
  reads wire e hparse hsuite := by
    subst hsuite
    rw [decrypt_of_parse hparse]
    exact decryptEnvelope_of_found h

/-! ## Built-in sealers -/

variable {e : Envelope} {text wire : String} {pair : KeyPair}

theorem found?_of_offers (hs : s.BuiltIn) (h : s.Offers suite) :
    ∃ kept, s.found? suite = some kept ∧ kept.binding.sealer = .builtIn suite := by
  obtain ⟨kept, s', hkept⟩ := exists_bindingFor h
  exact ⟨kept, bindingFor_eq_ok_iff.1 (congrArg Prod.fst hkept), sealer_of_bindingFor hs hkept⟩

theorem found?_of_not_offers (h : ¬s.Offers suite) : s.found? suite = none := by
  obtain ⟨hkept, hsealer⟩ := not_or.1 h
  rw [found?_of_not_kept (Option.not_isSome_iff_eq_none.1 hkept),
    Option.not_isSome_iff_eq_none.1 hsealer, Option.map_none]

/-- A text is opened with the sealer of its suite, if there is one. -/
theorem decrypt_eq (hs : s.BuiltIn) (h : Envelope.parse text = .ok e) :
    (s.Offers e.suite → (decrypt text s).1 = openedBy (.builtIn e.suite) e s) ∧
    (¬s.Offers e.suite → (decrypt text s).1 =
      (pairFor e.suite s).1 >>= fun _ => .error (.unsupported e.suite)) := by
  rw [decrypt_of_parse h]
  refine ⟨fun hoffers => ?_, fun hoffers => ?_⟩
  · obtain ⟨kept, hfound, hsealer⟩ := found?_of_offers hs hoffers
    rw [decryptEnvelope_of_found hfound, hsealer]
  · exact decryptEnvelope_of_not_found (found?_of_not_offers hoffers)

end FieldSeal.Service

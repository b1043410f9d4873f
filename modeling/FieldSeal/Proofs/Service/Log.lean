import FieldSeal.Proofs.Service.Binding

/-!
# What a service reports

**Notices** are reported when keys are asked for: the warning that generated keys are in use, once,
and each key that is generated (`KeySupply.notices`). Which notices a supply gives depends on the
kinds that it lacks and on whether it has warned, never on the bytes of a key.

**Marks** are reported of a value: that it was sealed, that it was opened, or that it failed
authentication (`verdict`). They come last and depend on the result.

**Steps** (`Reports`). A step adds to the events its notices and then its marks. Sealers, built-in or
not, have no access to the events, so this holds of every service.
-/

namespace FieldSeal

/-! ## Supplies -/

namespace KeySupply

/-- The supply warns when it is asked the next time. -/
def warns : KeySupply → Bool
  | fixed _ => false
  | generated _ warned => !warned

/-- The error with which the supply refuses keys for a suite. -/
def refusal? : KeySupply → Suite → Option EnvelopeError
  | fixed answer, suite =>
    match answer suite with
    | .ok _ => none
    | .error cause => some cause
  | generated _ _, _ => none

/-- What is reported when keys of some kinds are asked for, of the supply itself or of its ring. -/
def notices (supply : KeySupply) (asked : Bool) (kinds : List KeyKind) : List Event :=
  (if asked && supply.warns then [.usingGeneratedKeys] else []) ++
    (kinds.filter supply.lacks).map .generatedKey

variable {supply supply' : KeySupply} {suite : Suite} {cause : EnvelopeError} {asked : Bool}
  {kinds : List KeyKind}

theorem pairFor_eq_error_iff {host : Host} :
    (pairFor suite (supply, host)).1 = .error cause ↔ supply.refusal? suite = some cause := by
  cases supply with
  | fixed answer =>
    rw [pairFor_fixed, refusal?]
    cases answer suite with
    | ok pair => exact ⟨nofun, nofun⟩
    | error other => rw [Except.error.injEq, Option.some.injEq]
  | generated ring warned => exact ⟨nofun, nofun⟩

/-- Given pairs are handed out whatever the suite. -/
theorem refusal?_ofPairs (pair? : Suite → Option KeyPair) (suite : Suite) :
    (ofPairs pair?).refusal? suite = none := rfl

/-- Keys that are generated are never refused. -/
theorem refusal?_generated (ring : KeyRing) (warned : Bool) (suite : Suite) :
    (generated ring warned).refusal? suite = none := rfl

/-- A supply that refuses anything makes no keys. -/
theorem settled_of_refusal? (h : supply.refusal? suite = some cause) :
    supply.warns = false ∧ ∀ kind, supply.lacks kind = false := by
  cases supply with
  | fixed answer => exact ⟨rfl, fun _ => rfl⟩
  | generated ring warned => cases h

theorem notices_of_settled (hwarns : (asked && supply.warns) = false)
    (hlacks : ∀ kind ∈ kinds, supply.lacks kind = false) : supply.notices asked kinds = [] := by
  have hnone : kinds.filter supply.lacks = [] :=
    List.filter_eq_nil_iff.2 fun kind hkind => by simp [hlacks kind hkind]
  rw [notices, hwarns, hnone]
  rfl

theorem notices_congr (hwarns : supply.warns = supply'.warns)
    (hlacks : ∀ kind ∈ kinds, supply.lacks kind = supply'.lacks kind) (asked : Bool) :
    supply.notices asked kinds = supply'.notices asked kinds := by
  rw [notices, notices, hwarns, List.filter_congr hlacks]

end KeySupply

/-! ## Reports -/

/-- A step asked for keys of `kinds`, of the supply itself if `asked`, and reported its notices and
then `marks`. Nothing but this changes what the supply reports and refuses. -/
structure Reports (asked : Bool) (kinds : List KeyKind) (marks : List Event)
    (j j' : KeySupply × List Event) : Prop where
  events : j'.2 = j.2 ++ (j.1.notices asked kinds ++ marks)
  lacks : ∀ kind, j'.1.lacks kind = (j.1.lacks kind && kind ∉ kinds)
  warns : j'.1.warns = (j.1.warns && !asked)
  refusal? : j'.1.refusal? = j.1.refusal?

namespace Reports

variable {asked : Bool} {kinds kinds' : List KeyKind} {marks : List Event}
  {j j' j'' : KeySupply × List Event}

/-- A supply that has nothing to report may be asked. -/
theorem of_settled (hwarns : (asked && j.1.warns) = false)
    (hlacks : ∀ kind ∈ kinds, j.1.lacks kind = false) : Reports asked kinds [] j j where
  events := by rw [KeySupply.notices_of_settled hwarns hlacks, List.append_nil, List.append_nil]
  lacks kind := by
    by_cases hkind : kind ∈ kinds
    · simp [hlacks kind hkind]
    · simp [hkind]
  warns := by cases asked <;> simp_all
  refusal? := rfl

theorem refl (j : KeySupply × List Event) : Reports false [] [] j j := of_settled rfl nofun

/-- Marks are reported last. -/
theorem mark (h : Reports asked kinds [] j j') (marks : List Event) :
    Reports asked kinds marks j (j'.1, j'.2 ++ marks) where
  events := by
    show j'.2 ++ marks = _
    rw [h.events, List.append_nil, List.append_assoc]
  lacks := h.lacks
  warns := h.warns
  refusal? := h.refusal?

/-- A supply that has nothing to report may as well be asked for other keys. -/
theorem replace (h : Reports asked kinds marks j j') (hwarns : j.1.warns = false)
    (hlacks : ∀ kind, j.1.lacks kind = false) (asked' : Bool) (kinds' : List KeyKind) :
    Reports asked' kinds' marks j j' where
  events := by
    rw [h.events, KeySupply.notices_of_settled (by rw [hwarns, Bool.and_false]) fun kind _ =>
      hlacks kind, KeySupply.notices_of_settled (by rw [hwarns, Bool.and_false]) fun kind _ =>
      hlacks kind]
  lacks kind := by rw [h.lacks, hlacks, Bool.false_and, Bool.false_and]
  warns := by rw [h.warns, hwarns, Bool.false_and, Bool.false_and]
  refusal? := h.refusal?

/-- Keys of other kinds are asked for later. -/
theorem trans (h : Reports asked kinds [] j j') (h' : Reports false kinds' marks j' j'')
    (hdisjoint : ∀ kind ∈ kinds', kind ∉ kinds) :
    Reports asked (kinds ++ kinds') marks j j'' where
  events := by
    have hlacks : ∀ kind ∈ kinds', j'.1.lacks kind = j.1.lacks kind := by
      intro kind hkind
      rw [h.lacks, decide_eq_true (hdisjoint kind hkind), Bool.and_true]
    rw [h'.events, h.events]
    simp [KeySupply.notices, List.filter_congr hlacks]
  lacks kind := by
    rw [h'.lacks, h.lacks, Bool.and_assoc]
    simp [not_or]
  warns := by rw [h'.warns, h.warns, Bool.not_false, Bool.and_true]
  refusal? := by rw [h'.refusal?, h.refusal?]

end Reports

/-! ## Asking for keys -/

namespace KeyRing

/-- A key that was lacking is reported. -/
theorem reports_get (kind : KeyKind) (ring : KeyRing) (warned : Bool) (host : Host) :
    Reports false [kind] [] (.generated ring warned, host.events)
      (.generated (get kind (ring, host)).2.1 warned, (get kind (ring, host)).2.2.events) := by
  cases h : ring.key? kind with
  | some key =>
    rw [get_of_key? h]
    refine Reports.of_settled rfl fun k hk => ?_
    rw [List.mem_singleton.1 hk, KeySupply.lacks, h]
    rfl
  | none =>
    rw [get_of_missing h]
    refine ⟨?_, fun k => ?_, by simp [KeySupply.warns], rfl⟩
    · simp [KeySupply.notices, KeySupply.lacks, h, generate]
    · by_cases hk : k = kind
      · simp [KeySupply.lacks, hk]
      · simp [KeySupply.lacks, hk, key?_insert_of_ne ring _ hk]

theorem reports_pairFor (suite : Suite) (ring : KeyRing) (warned : Bool) (host : Host) :
    Reports false (KeyKind.requiredBy suite) [] (.generated ring warned, host.events)
      (.generated (pairFor suite (ring, host)).2.1 warned,
        (pairFor suite (ring, host)).2.2.events) := by
  cases suite with
  | modern => exact reports_get .modernEncryption ring warned host
  | gm =>
    refine (reports_get .gmEncryption ring warned host).trans ?_ (by decide)
    exact reports_get .gmMac _ warned _

end KeyRing

namespace KeySupply

theorem reports_pairFor (suite : Suite) (supply : KeySupply) (host : Host) :
    Reports true (KeyKind.requiredBy suite) [] (supply, host.events)
      ((pairFor suite (supply, host)).2.1, (pairFor suite (supply, host)).2.2.events) := by
  cases supply with
  | fixed answer => exact Reports.of_settled rfl fun _ _ => rfl
  | generated ring warned =>
    have h := KeyRing.reports_pairFor suite ring warned (warnOnce warned host)
    rw [pairFor_generated]
    refine ⟨?_, h.lacks, by simp [warns], rfl⟩
    rw [h.events]
    cases warned <;> simp [warnOnce, notices, warns]

end KeySupply

/-! ## Steps -/

namespace Service

variable {α : Type} {s : Service} {text mask wire : String} {e : Envelope}

/-- The supply and the events. -/
def journal (s : Service) : KeySupply × List Event := (s.supply, s.host.events)

theorem journal_bindingFor (suite : Suite) (s : Service) :
    (bindingFor suite s).2.journal = s.journal := by
  obtain ⟨hsupply, hhost⟩ := bindingFor_keeps suite s
  rw [journal, journal, hsupply, hhost]

theorem reports_pairFor (suite : Suite) (s : Service) :
    Reports true (KeyKind.requiredBy suite) [] s.journal (pairFor suite s).2.journal :=
  KeySupply.reports_pairFor suite s.supply s.host

/-- What is done with keys may report marks of its result. There are none if there are no keys. -/
theorem reports_pairFor_bind {f : KeyPair → Step α} {marks : Except EnvelopeError α → List Event}
    (hf : ∀ keys t, (f keys t).2.journal = (t.supply, t.host.events ++ marks (f keys t).1))
    (suite : Suite) (s : Service) :
    Reports true (KeyKind.requiredBy suite)
      (if (s.supply.refusal? suite).isSome then [] else marks ((pairFor suite >>= f) s).1)
      s.journal ((pairFor suite >>= f) s).2.journal := by
  have hpair := reports_pairFor suite s
  rcases hrun : pairFor suite s with ⟨result, t⟩
  rw [hrun] at hpair
  have hanswer : (KeySupply.pairFor suite (s.supply, s.host)).1 = result := congrArg Prod.fst hrun
  cases result with
  | error cause =>
    rw [KeySupply.pairFor_eq_error_iff.1 hanswer, Action.bind_of_error hrun]
    exact hpair
  | ok keys =>
    have hnone : s.supply.refusal? suite = none := by
      rw [Option.eq_none_iff_forall_ne_some]
      intro cause hcause
      cases hanswer.symm.trans (KeySupply.pairFor_eq_error_iff.2 hcause)
    rw [hnone, Action.bind_of_ok hrun, hf]
    exact hpair.mark _

/-! ### Sealing -/

/-- What is reported of a text that was to be sealed. -/
def sealMarks (suite : Suite) (result : Except EnvelopeError Envelope) : List Event :=
  result.toOption.toList.map fun _ => .encrypted suite

/-- Make an envelope and report it. -/
def sealBy (a : Action Entropy EnvelopeError Envelope) (suite : Suite) : Step Envelope := do
  let envelope ← onEntropy a
  report (.encrypted suite)
  return envelope

theorem journal_sealBy (a : Action Entropy EnvelopeError Envelope) (suite : Suite) (s : Service) :
    (sealBy a suite s).2.journal =
      (s.supply, s.host.events ++ sealMarks suite (sealBy a suite s).1) := by
  rcases hrun : onEntropy a s with ⟨result, t⟩
  have ht : t = { s with host := { s.host with entropy := (a s.host.entropy).2 } } :=
    (congrArg Prod.snd hrun).symm
  subst ht
  cases result with
  | error cause =>
    rw [sealBy, Action.bind_of_error hrun]
    exact congrArg (Prod.mk s.supply) (List.append_nil s.host.events).symm
  | ok envelope =>
    rw [sealBy, Action.bind_of_ok hrun]
    rfl

/-- Sealing asks for keys if the suite is offered, and reports the envelope. -/
theorem reports_encrypt (text : String) (s : Service) :
    Reports (!s.sealingKinds.isEmpty) s.sealingKinds
      (sealMarks s.policy.ask.1 (encrypt text s).1) s.journal (encrypt text s).2.journal := by
  by_cases hoffers : s.Offers s.policy.ask.1
  · obtain ⟨kept, t, hkept⟩ := exists_bindingFor (s := { s with policy := s.policy.ask.2 }) hoffers
    have hjournal := journal_bindingFor s.policy.ask.1 { s with policy := s.policy.ask.2 }
    rw [hkept] at hjournal
    have hencrypt : encrypt text s = (pairFor s.policy.ask.1 >>= fun keys =>
        sealBy (kept.binding.encrypt keys text) s.policy.ask.1) t := by
      rw [encrypt, Action.bind_of_ok (activeSuite_apply s), Action.bind_of_ok hkept]
      rfl
    have hreports := reports_pairFor_bind
      (fun keys => journal_sealBy (kept.binding.encrypt keys text) s.policy.ask.1)
      s.policy.ask.1 t
    have hasked : (!(KeyKind.requiredBy s.policy.ask.1).isEmpty) = true := by
      cases s.policy.ask.1 <;> rfl
    rw [← hencrypt, hjournal] at hreports
    rw [sealingKinds, if_pos hoffers, hasked]
    split at hreports
    · next hrefused =>
      -- Without keys nothing was sealed.
      obtain ⟨cause, hcause⟩ := Option.isSome_iff_exists.1 hrefused
      have hfailed : (encrypt text s).1 = .error cause := by
        have hanswer : (pairFor s.policy.ask.1 t).1 = .error cause :=
          KeySupply.pairFor_eq_error_iff.2 hcause
        rw [hencrypt, Action.bind_answer, hanswer]
        rfl
      rwa [hfailed]
    · exact hreports
  · rw [encrypt_of_not_offers hoffers, sealingKinds, if_neg hoffers]
    exact Reports.refl s.journal

/-! ### Opening -/

/-- What is reported of an envelope that was to be opened. -/
def verdict (suite : Suite) : Except EnvelopeError String → List Event
  | .ok _ => [.decrypted suite]
  | .error (.tampered _) => [.failedAuthentication suite]
  | .error _ => []

theorem journal_decryptWith (keys : KeyPair) (e : Envelope) (s : Service) :
    (decryptWith keys e s).2.journal =
      (s.supply, s.host.events ++ verdict e.suite (decryptWith keys e s).1) := by
  have hjournal := journal_bindingFor e.suite s
  rcases hrun : bindingFor e.suite s with ⟨result, t⟩
  rw [hrun] at hjournal
  obtain ⟨hsupply, hevents⟩ := Prod.mk.inj hjournal
  rw [← hsupply, ← hevents]
  cases result with
  | error cause =>
    obtain ⟨rfl, -⟩ := of_bindingFor_eq_error hrun
    rw [decryptWith, Action.bind_of_error hrun]
    exact congrArg (Prod.mk t.supply) (List.append_nil t.host.events).symm
  | ok kept =>
    rw [decryptWith, Action.bind_of_ok hrun]
    cases kept.binding.decrypt keys e with
    | ok text => rfl
    | error cause =>
      cases cause with
      | tampered suite => rfl
      | _ => exact congrArg (Prod.mk t.supply) (List.append_nil t.host.events).symm

/-- What is reported of an envelope for which the supply was asked. -/
def openMarks (e : Envelope) (s : Service) : List Event :=
  if (s.supply.refusal? e.suite).isSome then [] else verdict e.suite (decryptEnvelope e s).1

theorem reports_decryptEnvelope (e : Envelope) (s : Service) :
    Reports true (KeyKind.requiredBy e.suite) (openMarks e s) s.journal
      (decryptEnvelope e s).2.journal :=
  reports_pairFor_bind (fun keys => journal_decryptWith keys e) e.suite s

/-- What is reported of a text that was to be opened. -/
def readMarks (wire : String) (s : Service) : List Event :=
  match Envelope.parse wire with
  | .ok e => openMarks e s
  | .error _ => []

theorem readMarks_of_not_envelope (h : ¬Envelope.isEnvelope wire) : readMarks wire s = [] := by
  unfold readMarks
  split
  · next hparse => exact absurd (Envelope.isEnvelope_of_parse hparse) h
  · rfl

theorem reports_decrypt (wire : String) (s : Service) :
    Reports (!(openingKinds wire).isEmpty) (openingKinds wire) (readMarks wire s) s.journal
      (decrypt wire s).2.journal := by
  unfold openingKinds readMarks
  cases hparse : Envelope.parse wire with
  | error cause =>
    rw [decrypt, Action.bind_apply, Action.ofExcept_apply, hparse]
    exact Reports.refl s.journal
  | ok e =>
    rw [decrypt_of_parse hparse]
    have hasked : (!(KeyKind.requiredBy e.suite).isEmpty) = true := by cases e.suite <;> rfl
    dsimp only
    rw [hasked]
    exact reports_decryptEnvelope e s

end Service

end FieldSeal

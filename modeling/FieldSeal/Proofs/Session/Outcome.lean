import FieldSeal.Proofs.Service.Fault
import FieldSeal.Proofs.Session.Log

/-!
# What may be known of a step, and what it reports

**Outcomes** (`Operation.outcome`). Of a step it may be known that it succeeded and the suite of its
envelope, or the variant of its error with the suite and the kind of key in it, or that a value was
refused. Operations that differ in texts, masks, rules, envelopes and keys only have the same `Role`.

**What is settled by them.** The role and the outcome settle which marks are reported (`marks_eq`) and
for which keys is asked (`kinds_eq`), because an error that comes from behind the parser names the
suite of the envelope. A supply that refuses keys reports nothing anyway.

**Truth.** What was made, opened or found to be tampered with is reported (`marks_of_envelope?`,
`marks_of_opened?`, `marks_of_tampered`), and nothing else about a value is (`marks_of_nothing`).
-/

namespace FieldSeal

/-! ## Outcomes -/

/-- The variant of an error, with the suite and the kind of key in it, without texts. -/
def EnvelopeError.variant : EnvelopeError → EnvelopeError
  | .unknownSuite _ => .unknownSuite ""
  | .unknownKeyKind _ => .unknownKeyKind ""
  | .malformed _ => .malformed .fieldCount
  | cause => cause

theorem EnvelopeError.suite?_variant (cause : EnvelopeError) :
    cause.variant.suite? = cause.suite? := by cases cause <;> rfl

theorem EnvelopeError.eq_tampered_of_variant {cause : EnvelopeError} {suite : Suite}
    (h : cause.variant = .tampered suite) : cause = .tampered suite := by
  cases cause <;> cases h
  rfl

/-- What may be known of a step. -/
inductive StepOutcome where
  /-- It succeeded, and there was an envelope of this suite, or none. -/
  | success (suite? : Option Suite)
  /-- It failed with an error of this variant. -/
  | failure (cause : EnvelopeError)
  /-- A value was refused before it was sealed, or instead of being opened. -/
  | refusal
  deriving DecidableEq

/-- The outcome of a result, with the suite of the envelope. -/
def StepOutcome.of {α : Type} (suite? : Option Suite) : Except EnvelopeError α → StepOutcome
  | .ok _ => success suite?
  | .error cause => failure cause.variant

/-- The suite that the outcome tells. -/
def StepOutcome.suite? : StepOutcome → Option Suite
  | success suite? => suite?
  | failure cause => cause.suite?
  | refusal => none

/-- If the outcome is that of sealing: there was an envelope, answered or withheld for its mask. -/
def StepOutcome.made : StepOutcome → Bool
  | success (some _) | failure (.malformed _) => true
  | _ => false

/-- What an operation is for, as far as it has a say in what is reported. Operations that differ in
texts, masks, rules, envelopes and keys only have the same role. -/
inductive Role where
  | sealing
  /-- Open with keys from the supply. -/
  | opening
  /-- Open with keys of the caller. -/
  | openingWith
  | register (suite : Suite)
  /-- Ask for keys, of the supply itself or of its ring. -/
  | keys (asked : Bool) (kinds : List KeyKind)
  | other
  deriving DecidableEq

/-- What may be known of the state of a codec. -/
structure View where
  active : Suite
  /-- The active suite has a sealer. -/
  offered : Bool
  /-- The supply refuses keys for the active suite. -/
  refused : Bool

namespace Role

/-- The kinds of keys for which is asked. -/
def kinds (v : View) (o : StepOutcome) : Role → List KeyKind
  | sealing =>
    match o with
    | .success none | .refusal => []
    | _ => if v.offered then KeyKind.requiredBy v.active else []
  | opening => (o.suite?.map KeyKind.requiredBy).getD []
  | keys _ kinds => kinds
  | _ => []

/-- The keys are asked for of the supply itself. -/
def asked (v : View) (o : StepOutcome) : Role → Bool
  | keys asked _ => asked
  | role => !(role.kinds v o).isEmpty

/-- What is reported besides notices about keys. -/
def marks (v : View) (o : StepOutcome) : Role → List Event
  | sealing => if o.made && !v.refused then [.encrypted v.active] else []
  | opening | openingWith =>
    match o with
    | .success (some suite) => [.decrypted suite]
    | .failure (.tampered suite) => [.failedAuthentication suite]
    | _ => []
  | register suite => [.registered suite]
  | _ => []

end Role

namespace Operation

variable {α : Type}

def role : {α : Type} → Operation α → Role
  | _, encrypt _ | _, encryptToWire _ | _, encryptWithMask _ _ | _, protect _ _ => .sealing
  | _, decrypt _ | _, decryptEnvelope _ | _, reveal _ _ => .opening
  | _, decryptWith _ _ => .openingWith
  | _, register sealer | _, put sealer => .register sealer.suite
  | _, pairFor suite => .keys true (KeyKind.requiredBy suite)
  | _, ringPair suite => .keys false (KeyKind.requiredBy suite)
  | _, ringKey kind => .keys false [kind]
  | _, _ => .other

/-- The error that an operation answers. -/
def errorOf : {α : Type} → Operation α → α → Option FieldError
  | _, encrypt _, .error cause | _, encryptToWire _, .error cause
  | _, encryptWithMask _ _, .error cause | _, decrypt _, .error cause
  | _, decryptEnvelope _, .error cause | _, decryptWith _ _, .error cause
  | _, activeSuite, .error cause | _, bindingFor _, .error cause | _, register _, .error cause
  | _, pairFor _, .error cause => some (.envelope cause)
  | _, protect _ _, .error cause | _, reveal _ _, .error cause => some cause
  | _, mask _ _, .error cause | _, accepts _ _, .error cause | _, pattern _, .error cause =>
    some (.mask cause)
  | _, _, _ => none

def error? (op : Operation α) (c : Codec) : Option FieldError := op.errorOf (op.run c).1

/-- The envelope that the operation is to open, if it is given one. -/
def toOpen? : {α : Type} → Operation α → Option Envelope
  | _, decryptWith _ e | _, decryptEnvelope e => some e
  | _, decrypt wire | _, reveal _ wire => (Envelope.parse wire).toOption
  | _, _ => none

/-- The suite of the envelope that the operation opened. -/
def opened? (op : Operation α) (c : Codec) : Option Suite :=
  match op.error? c with
  | none => op.toOpen?.map (·.suite)
  | some _ => none

/-- The suite of the envelope that the operation made or is to open. -/
def suite? (op : Operation α) (c : Codec) : Option Suite :=
  ((op.envelope? c).or op.toOpen?).map (·.suite)

def outcome (op : Operation α) (c : Codec) : StepOutcome :=
  match op.error? c with
  | none => .success (op.suite? c)
  | some (.envelope cause) => .failure cause.variant
  | some (.mask _) => .refusal

/-- An envelope that is opened has a nonce of its suite, as all envelopes that were sealed or parsed
have. -/
def Formed : {α : Type} → Operation α → Prop
  | _, decryptEnvelope e => e.nonce.length = e.suite.nonceLength
  | _, _ => True

end Operation

/-- A supply never claims that an envelope was tampered with, for it sees none. -/
def KeySupply.Honest (supply : KeySupply) : Prop :=
  ∀ suite other, supply.refusal? suite ≠ some (.tampered other)

/-- A supply that refuses nothing claims nothing. -/
theorem KeySupply.honest_of_refusal? {supply : KeySupply}
    (h : ∀ suite, supply.refusal? suite = none) : supply.Honest := by
  intro suite other hother
  rw [h suite] at hother
  cases hother

/-- What may be known of a codec. -/
def Codec.view (c : Codec) : View where
  active := c.service.policy.ask.1
  offered := c.service.Offers c.service.policy.ask.1
  refused := (c.service.supply.refusal? c.service.policy.ask.1).isSome

namespace Operation

variable {α : Type} {op : Operation α} {c : Codec} {rule : MaskRule} {text mask wire value : String}
  {e : Envelope}

/-! ## Answers -/

theorem error?_protect (rule : MaskRule) (value : String) (c : Codec) :
    (protect rule value).error? c =
      (protect rule value).errorOf (Codec.protect rule value c).1 := rfl

theorem error?_reveal (rule : MaskRule) (wire : String) (c : Codec) :
    (reveal rule wire).error? c = (reveal rule wire).errorOf (Codec.reveal rule wire c).1 := rfl

/-- An operation that answers what the service answers, up to what is done with it on success. -/
theorem outcome_of_result {β : Type} {result : Except EnvelopeError β} (op : Operation α)
    (h : op.error? c = match result with
      | .ok _ => none
      | .error cause => some (.envelope cause)) : op.outcome c = .of (op.suite? c) result := by
  rw [outcome, h]
  cases result <;> rfl

theorem outcome_encrypt (text : String) (c : Codec) :
    (encrypt text).outcome c =
      .of ((encrypt text).suite? c) (Service.encrypt text c.service).1 := by
  refine outcome_of_result _ ?_
  show (encrypt text).errorOf (Service.encrypt text c.service).1 = _
  cases (Service.encrypt text c.service).1 <;> rfl

theorem outcome_encryptToWire (text : String) (c : Codec) :
    (encryptToWire text).outcome c =
      .of ((encryptToWire text).suite? c) (Service.encrypt text c.service).1 := by
  refine outcome_of_result _ ?_
  show (encryptToWire text).errorOf ((Envelope.toWire <$> Service.encrypt text) c.service).1 = _
  rw [Action.map_apply]
  cases (Service.encrypt text c.service).1 <;> rfl

theorem outcome_encryptWithMask (text mask : String) (c : Codec) :
    (encryptWithMask text mask).outcome c =
      .of ((encryptWithMask text mask).suite? c)
        ((Service.encrypt text c.service).1.bind (·.withMask mask)) := by
  refine outcome_of_result _ ?_
  show (encryptWithMask text mask).errorOf (Service.encryptWithMask text mask c.service).1 = _
  rw [Service.encryptWithMask_apply]
  cases (Service.encrypt text c.service).1.bind (·.withMask mask) <;> rfl

theorem outcome_decrypt (wire : String) (c : Codec) :
    (decrypt wire).outcome c =
      .of ((decrypt wire).suite? c) (Service.decrypt wire c.service).1 := by
  refine outcome_of_result _ ?_
  show (decrypt wire).errorOf (Service.decrypt wire c.service).1 = _
  cases (Service.decrypt wire c.service).1 <;> rfl

theorem outcome_decryptEnvelope (e : Envelope) (c : Codec) :
    (decryptEnvelope e).outcome c =
      .of (some e.suite) (Service.decryptEnvelope e c.service).1 := by
  refine outcome_of_result (decryptEnvelope e) ?_
  show (decryptEnvelope e).errorOf (Service.decryptEnvelope e c.service).1 = _
  cases (Service.decryptEnvelope e c.service).1 <;> rfl

theorem outcome_decryptWith (keys : KeyPair) (e : Envelope) (c : Codec) :
    (decryptWith keys e).outcome c =
      .of (some e.suite) (Service.decryptWith keys e c.service).1 := by
  refine outcome_of_result (decryptWith keys e) ?_
  show (decryptWith keys e).errorOf (Service.decryptWith keys e c.service).1 = _
  cases (Service.decryptWith keys e c.service).1 <;> rfl

theorem outcome_protect (hvalue : ¬value.isEmpty) (c : Codec) :
    (protect rule value).outcome c =
      match (Masker.mask rule value c.masker).1 with
      | .ok mask => .of ((protect rule value).suite? c)
          ((Service.encrypt value c.service).1.bind (·.withMask mask))
      | .error _ => .refusal := by
  rw [outcome, error?_protect, protect_apply hvalue]
  rcases Masker.mask rule value c.masker with ⟨result, masker⟩
  cases result with
  | error cause => rfl
  | ok mask =>
    dsimp only
    rw [Codec.onService, Action.mapError_apply, Action.on_apply, Service.encryptWithMask_apply]
    cases (Service.encrypt value c.service).1.bind (·.withMask mask) <;> rfl

theorem toOpen?_of_not_isEnvelope (h : ¬Envelope.isEnvelope wire) (rule : MaskRule) :
    (reveal rule wire).toOpen? = none := by
  rw [toOpen?, Option.eq_none_iff_forall_ne_some]
  intro e he
  exact h (Envelope.isEnvelope_of_parse (except_toOption_eq_some_iff.1 he))

theorem outcome_reveal_of_isEnvelope (h : Envelope.isEnvelope wire) (rule : MaskRule) (c : Codec) :
    (reveal rule wire).outcome c = (decrypt wire).outcome c := by
  rw [outcome_decrypt]
  refine outcome_of_result (reveal rule wire) ?_
  rw [error?_reveal, Codec.reveal_of_isEnvelope h, Codec.onService, Action.mapError_apply,
    Action.on_apply]
  cases (Service.decrypt wire c.service).1 <;> rfl

/-- A value that does not look like an envelope is answered, or refused by the masker. -/
theorem outcome_reveal_of_not_isEnvelope (h : ¬Envelope.isEnvelope wire) (rule : MaskRule)
    (c : Codec) :
    (reveal rule wire).outcome c = .success none ∨ (reveal rule wire).outcome c = .refusal := by
  have hsuite : (reveal rule wire).suite? c = none := by
    rw [suite?, toOpen?_of_not_isEnvelope h]
    rfl
  rw [outcome, error?_reveal, hsuite, Codec.reveal]
  by_cases hempty : wire.isEmpty
  · rw [if_pos hempty]
    exact .inl rfl
  · rw [if_neg hempty, if_neg h, Action.bind_answer, Codec.onMasker, Action.mapError_apply,
      Action.on_apply]
    cases (Masker.accepts rule wire c.masker).1 with
    | error cause => exact .inr rfl
    | ok accepted =>
      cases accepted with
      | true => exact .inl rfl
      | false => exact .inr rfl

/-! ## Sealing -/

/-- An envelope is answered, or withheld for its mask. -/
theorem outcome_of_withMask (mask : String) {suite? : Option Suite}
    {result : Except EnvelopeError Envelope}
    (hsuite : ∀ e, result = .ok e → suite? = some e.suite) :
    (∃ e, result = .ok e ∧
      (StepOutcome.of suite? (result.bind (·.withMask mask)) = .success (some e.suite) ∨
        StepOutcome.of suite? (result.bind (·.withMask mask)) =
          .failure (.malformed .fieldCount))) ∨
    ∃ cause, result = .error cause ∧
      StepOutcome.of suite? (result.bind (·.withMask mask)) = .failure cause.variant := by
  cases result with
  | error cause => exact .inr ⟨cause, rfl, rfl⟩
  | ok e =>
    refine .inl ⟨e, rfl, ?_⟩
    rw [hsuite e rfl]
    show StepOutcome.of _ (e.withMask mask) = _ ∨ StepOutcome.of _ (e.withMask mask) = _
    unfold Envelope.withMask
    split
    · exact .inr rfl
    · exact .inl rfl

/-- An operation that seals a text tells whether there is an envelope, unless it withholds it for its
mask. -/
theorem outcome_of_text (h : op.text? c = some text) :
    (∃ e, (Service.encrypt text c.service).1 = .ok e ∧
      (op.outcome c = .success (some e.suite) ∨
        op.outcome c = .failure (.malformed .fieldCount))) ∨
    ∃ cause, (Service.encrypt text c.service).1 = .error cause ∧
      op.outcome c = .failure cause.variant := by
  have hsuite : ∀ e, (Service.encrypt text c.service).1 = .ok e → op.suite? c = some e.suite := by
    intro e he
    rw [suite?, envelope?, h, Option.bind_some, he]
    rfl
  have hanswer : op.outcome c = .of (op.suite? c) (Service.encrypt text c.service).1 →
      (∃ e, (Service.encrypt text c.service).1 = .ok e ∧
        (op.outcome c = .success (some e.suite) ∨
          op.outcome c = .failure (.malformed .fieldCount))) ∨
      ∃ cause, (Service.encrypt text c.service).1 = .error cause ∧
        op.outcome c = .failure cause.variant := by
    intro houtcome
    rw [houtcome]
    cases hresult : (Service.encrypt text c.service).1 with
    | ok e =>
      rw [hsuite e hresult]
      exact .inl ⟨e, rfl, .inl rfl⟩
    | error cause => exact .inr ⟨cause, rfl, rfl⟩
  cases op with
  | encrypt text' =>
    cases h
    exact hanswer (outcome_encrypt text c)
  | encryptToWire text' =>
    cases h
    exact hanswer (outcome_encryptToWire text c)
  | encryptWithMask text' mask =>
    cases h
    rw [outcome_encryptWithMask]
    exact outcome_of_withMask mask hsuite
  | protect rule value =>
    by_cases hvalue : value.isEmpty
    · simp [text?, hvalue] at h
    · rw [outcome_protect hvalue]
      rw [text?, if_neg hvalue] at h
      obtain ⟨mask, hmask, rfl⟩ := Option.map_eq_some_iff.1 h
      rw [except_toOption_eq_some_iff.1 hmask]
      exact outcome_of_withMask mask hsuite
  | _ => cases h

/-- An operation that is for sealing and seals nothing has an empty value, or refuses it. -/
theorem outcome_of_no_text (hrole : op.role = .sealing) (h : op.text? c = none) :
    op.outcome c = .success none ∨ op.outcome c = .refusal := by
  cases op with
  | protect rule value =>
    by_cases hvalue : value.isEmpty
    · left
      rw [outcome, error?_protect, Codec.protect_of_isEmpty hvalue, suite?, envelope?, h]
      rfl
    · right
      rw [outcome_protect hvalue]
      rw [text?, if_neg hvalue] at h
      cases hmask : (Masker.mask rule value c.masker).1 with
      | error cause => rfl
      | ok mask =>
        rw [hmask] at h
        cases h
  | encrypt text => cases h
  | encryptToWire text => cases h
  | encryptWithMask text shown => cases h
  | _ => cases hrole

theorem reports_of_sealing (hrole : op.role = .sealing) (c : Codec) :
    (op.asks c = if (op.text? c).isSome then c.service.sealingKinds else []) ∧
      op.marks c = (op.envelope? c).toList.map fun _ => .encrypted c.service.policy.ask.1 := by
  cases op with
  | encrypt text => exact ⟨rfl, rfl⟩
  | encryptToWire text => exact ⟨rfl, rfl⟩
  | encryptWithMask text mask => exact ⟨rfl, rfl⟩
  | protect rule value => exact ⟨rfl, rfl⟩
  | _ => cases hrole

theorem kinds_of_offered (c : Codec) :
    (if c.view.offered then KeyKind.requiredBy c.view.active else []) = c.service.sealingKinds := by
  rw [Service.sealingKinds]
  simp only [Codec.view, decide_eq_true_eq]

/-- Sealing does not fail for the form of anything, unless the supply says so. -/
theorem refused_of_encrypt (hs : c.service.BuiltIn) {cause : EnvelopeError}
    (h : (Service.encrypt text c.service).1 = .error cause) :
    c.view.refused ∨ (StepOutcome.failure cause.variant).made = false := by
  rcases Service.concerns_of_encrypt hs h with hrefusal | ⟨hsuite, -⟩
  · left
    rw [Codec.view, hrefusal]
    rfl
  · right
    cases cause with
    | malformed _ => cases hsuite
    | _ => rfl

/-- What a sealing operation reports is settled by its outcome. -/
theorem sealing_eq (hs : c.service.BuiltIn) (hrole : op.role = .sealing) :
    op.asks c = Role.sealing.kinds c.view (op.outcome c) ∧
      op.marks c = Role.sealing.marks c.view (op.outcome c) := by
  obtain ⟨hasks, hmarks⟩ := reports_of_sealing hrole c
  rw [hasks, hmarks, envelope?]
  cases htext : op.text? c with
  | none =>
    rcases outcome_of_no_text hrole htext with houtcome | houtcome
    · rw [houtcome]
      exact ⟨rfl, rfl⟩
    · rw [houtcome]
      exact ⟨rfl, rfl⟩
  | some text =>
    have hsealing := (kinds_of_offered c).symm
    rw [Option.bind_some]
    rcases outcome_of_text htext with ⟨e, he, houtcome⟩ | ⟨cause, hcause, houtcome⟩
    · have hrefused : c.view.refused = false := by
        rw [Codec.view, (Service.suite_of_encrypt hs he).2]
        rfl
      rw [he, Role.marks, hrefused]
      rcases houtcome with houtcome | houtcome
      · rw [houtcome]
        exact ⟨hsealing, rfl⟩
      · rw [houtcome]
        exact ⟨hsealing, rfl⟩
    · have hnothing : ((StepOutcome.failure cause.variant).made && !c.view.refused) = false := by
        rcases refused_of_encrypt hs hcause with hrefused | hmade
        · rw [hrefused, Bool.not_true, Bool.and_false]
        · rw [hmade, Bool.false_and]
      rw [hcause, houtcome, Role.marks, hnothing]
      exact ⟨hsealing, rfl⟩

/-! ## Opening -/

/-- What is reported of an envelope that was to be opened, by the outcome. -/
theorem verdict_eq {e : Envelope} {result : Except EnvelopeError String}
    (h : ∀ other, result = .error (.tampered other) → other = e.suite) (v : View) :
    Service.verdict e.suite result = Role.opening.marks v (.of (some e.suite) result) := by
  cases result with
  | ok text => rfl
  | error cause =>
    cases cause with
    | tampered other =>
      obtain rfl := h other rfl
      rfl
    | _ => rfl

theorem openMarks_eq (hs : c.service.BuiltIn) (hhonest : c.service.supply.Honest) (e : Envelope) :
    Service.openMarks e c.service =
      Role.opening.marks c.view (.of (some e.suite) (Service.decryptEnvelope e c.service).1) := by
  rw [Service.openMarks]
  cases hrefusal : c.service.supply.refusal? e.suite with
  | none =>
    refine verdict_eq (fun other hother => ?_) c.view
    have hsuite := Service.eq_of_tampered_envelope hs hother
    rw [hrefusal] at hsuite
    exact hsuite.resolve_left nofun
  | some cause =>
    have hresult : (Service.decryptEnvelope e c.service).1 = .error cause := by
      rw [Service.decryptEnvelope, Action.bind_answer, Service.pairFor_error_iff.2 hrefusal]
      rfl
    rw [hresult]
    cases cause with
    | tampered other => exact absurd hrefusal (hhonest e.suite other)
    | _ => rfl

/-- Unless the supply refuses keys, the outcome tells the suite of an envelope. -/
theorem requiredBy_eq (hs : c.service.BuiltIn) (hlength : e.nonce.length = e.suite.nonceLength) :
    (∃ suite, (c.service.supply.refusal? suite).isSome) ∨ KeyKind.requiredBy e.suite =
      Role.opening.kinds c.view (.of (some e.suite) (Service.decryptEnvelope e c.service).1) := by
  cases hresult : (Service.decryptEnvelope e c.service).1 with
  | ok text => exact .inr rfl
  | error cause =>
    rcases Service.suite?_of_decryptEnvelope hs hlength hresult with hrefusal | hsuite
    · exact .inl ⟨e.suite, Option.isSome_of_eq_some hrefusal⟩
    · right
      rw [StepOutcome.of, Role.kinds, StepOutcome.suite?, EnvelopeError.suite?_variant, hsuite]
      rfl

theorem outcome_of_parse_error {cause : EnvelopeError} (h : Envelope.parse wire = .error cause)
    (c : Codec) : (decrypt wire).outcome c = .failure cause.variant := by
  have hfailed : (Service.decrypt wire c.service).1 = .error cause := by
    rw [Service.decrypt, Action.bind_answer, Action.ofExcept_apply, h]
    rfl
  rw [outcome_decrypt, hfailed]
  rfl

theorem outcome_of_parse (h : Envelope.parse wire = .ok e) (c : Codec) :
    (decrypt wire).outcome c = .of (some e.suite) (Service.decryptEnvelope e c.service).1 := by
  have hsuite : (decrypt wire).suite? c = (Envelope.parse wire).toOption.map (·.suite) := rfl
  rw [outcome_decrypt, hsuite, h, Service.decrypt_of_parse h]
  rfl

theorem readMarks_eq (hs : c.service.BuiltIn) (hhonest : c.service.supply.Honest)
    (wire : String) :
    Service.readMarks wire c.service =
      Role.opening.marks c.view ((decrypt wire).outcome c) := by
  rw [Service.readMarks]
  cases hparse : Envelope.parse wire with
  | ok e =>
    rw [outcome_of_parse hparse]
    exact openMarks_eq hs hhonest e
  | error cause =>
    rw [outcome_of_parse_error hparse]
    have hsuite := Envelope.suite?_of_parse_error hparse
    cases cause with
    | tampered suite => cases hsuite
    | _ => rfl

theorem openingKinds_eq (hs : c.service.BuiltIn) (wire : String) :
    (∃ suite, (c.service.supply.refusal? suite).isSome) ∨ Service.openingKinds wire =
      Role.opening.kinds c.view ((decrypt wire).outcome c) := by
  rw [Service.openingKinds]
  cases hparse : Envelope.parse wire with
  | ok e =>
    rw [outcome_of_parse hparse]
    exact requiredBy_eq hs (Envelope.parse_eq_ok_iff_denotes.1 hparse).length
  | error cause =>
    right
    rw [outcome_of_parse_error hparse, Role.kinds, StepOutcome.suite?, EnvelopeError.suite?_variant,
      Envelope.suite?_of_parse_error hparse]
    rfl

/-! ## All operations -/

/-- The role and the outcome of an operation settle which marks are reported. -/
theorem marks_eq (op : Operation α) (hs : c.service.BuiltIn)
    (hhonest : c.service.supply.Honest) :
    op.marks c = op.role.marks c.view (op.outcome c) := by
  cases op with
  | encrypt text => exact (sealing_eq hs rfl).2
  | encryptToWire text => exact (sealing_eq hs rfl).2
  | encryptWithMask text mask => exact (sealing_eq hs rfl).2
  | protect rule value => exact (sealing_eq hs rfl).2
  | decrypt wire => exact readMarks_eq hs hhonest wire
  | decryptEnvelope e =>
    rw [outcome_decryptEnvelope]
    exact openMarks_eq hs hhonest e
  | decryptWith keys e =>
    rw [outcome_decryptWith]
    exact verdict_eq (fun other => Service.eq_of_tampered hs) c.view
  | reveal rule wire =>
    by_cases henvelope : Envelope.isEnvelope wire
    · rw [outcome_reveal_of_isEnvelope henvelope]
      exact readMarks_eq hs hhonest wire
    · rw [marks, Service.readMarks_of_not_envelope henvelope]
      rcases outcome_reveal_of_not_isEnvelope henvelope rule c with houtcome | houtcome
      · rw [houtcome]
        rfl
      · rw [houtcome]
        rfl
  | _ => rfl

/-- They settle also for which keys is asked, unless the supply refuses some. -/
theorem kinds_eq (op : Operation α) (hs : c.service.BuiltIn) (hop : op.Formed) :
    (∃ suite, (c.service.supply.refusal? suite).isSome) ∨
      op.asks c = op.role.kinds c.view (op.outcome c) := by
  cases op with
  | encrypt text => exact .inr (sealing_eq hs rfl).1
  | encryptToWire text => exact .inr (sealing_eq hs rfl).1
  | encryptWithMask text mask => exact .inr (sealing_eq hs rfl).1
  | protect rule value => exact .inr (sealing_eq hs rfl).1
  | decrypt wire => exact openingKinds_eq hs wire
  | decryptEnvelope e =>
    rw [outcome_decryptEnvelope]
    exact requiredBy_eq hs hop
  | reveal rule wire =>
    by_cases henvelope : Envelope.isEnvelope wire
    · rw [outcome_reveal_of_isEnvelope henvelope]
      exact openingKinds_eq hs wire
    · rw [asks, Service.openingKinds_of_not_envelope henvelope]
      rcases outcome_reveal_of_not_isEnvelope henvelope rule c with houtcome | houtcome
      · rw [houtcome]
        exact .inr rfl
      · rw [houtcome]
        exact .inr rfl
  | _ => exact .inr rfl

theorem asked_eq {v : View} {o : StepOutcome} (h : op.asks c = op.role.kinds v o) :
    op.asked c = op.role.asked v o := by
  cases op with
  | pairFor suite => cases suite <;> rfl
  | ringPair suite => rfl
  | ringKey kind => rfl
  | _ => exact congrArg (fun kinds : List KeyKind => !kinds.isEmpty) h

/-- What an operation reports is settled by its role and its outcome. -/
theorem reports_outcome (op : Operation α) (hs : c.service.BuiltIn)
    (hhonest : c.service.supply.Honest) (hop : op.Formed) :
    Reports (op.role.asked c.view (op.outcome c)) (op.role.kinds c.view (op.outcome c))
      (op.role.marks c.view (op.outcome c)) c.service.journal (op.run c).2.service.journal := by
  have hreports := op.reports_run c
  rw [op.marks_eq hs hhonest] at hreports
  rcases op.kinds_eq hs hop with ⟨suite, hrefused⟩ | hkinds
  · obtain ⟨cause, hcause⟩ := Option.isSome_iff_exists.1 hrefused
    obtain ⟨hwarns, hlacks⟩ := KeySupply.settled_of_refusal? hcause
    exact hreports.replace hwarns hlacks _ _
  · rwa [asked_eq hkinds, hkinds] at hreports

end Operation

/-! ## Marks -/

/-- The event is about a value. -/
def Event.isMark : Event → Bool
  | .encrypted _ | .decrypted _ | .failedAuthentication _ => true
  | _ => false

theorem filter_isMark_notices (supply : KeySupply) (asked : Bool) (kinds : List KeyKind) :
    (supply.notices asked kinds).filter Event.isMark = [] := by
  rw [KeySupply.notices, List.filter_append, List.filter_map]
  split <;> simp [Event.isMark]

namespace Operation

variable {α : Type} {op : Operation α} {c : Codec} {e : Envelope} {suite : Suite}

theorem role_of_text? {text : String} (h : op.text? c = some text) : op.role = .sealing := by
  cases op with
  | encrypt text => rfl
  | encryptToWire text => rfl
  | encryptWithMask text mask => rfl
  | protect rule value => rfl
  | _ => cases h

/-- An operation that makes an envelope reports it, and its suite is the active one. -/
theorem marks_of_envelope? (hs : c.service.BuiltIn) (h : op.envelope? c = some e) :
    e.suite = c.service.policy.ask.1 ∧ op.marks c = [.encrypted c.service.policy.ask.1] := by
  obtain ⟨text, htext, hresult⟩ := exists_of_envelope? h
  refine ⟨(Service.suite_of_encrypt hs hresult).1, ?_⟩
  rw [(reports_of_sealing (role_of_text? htext) c).2, h]
  rfl

/-- Only operations for opening are given an envelope, and its suite is the one they tell. -/
theorem role_of_toOpen? (h : op.toOpen? = some e) (c : Codec) :
    (op.role = .opening ∨ op.role = .openingWith) ∧ op.suite? c = some e.suite := by
  have hsuite := congrArg (Option.map (·.suite)) h
  cases op with
  | decrypt wire => exact ⟨.inl rfl, hsuite⟩
  | reveal rule wire => exact ⟨.inl rfl, hsuite⟩
  | decryptEnvelope e' => exact ⟨.inl rfl, hsuite⟩
  | decryptWith keys e' => exact ⟨.inr rfl, hsuite⟩
  | _ => cases h

/-- An operation that opened an envelope is for opening, and its outcome tells the suite. -/
theorem outcome_of_toOpen? (h : op.toOpen? = some e) (herror : op.error? c = none) :
    (op.role = .opening ∨ op.role = .openingWith) ∧ op.outcome c = .success (some e.suite) := by
  obtain ⟨hrole, hsuite⟩ := role_of_toOpen? h c
  refine ⟨hrole, ?_⟩
  rw [outcome, herror, hsuite]

theorem outcome_of_tampered (h : op.error? c = some (.envelope (.tampered suite))) :
    op.outcome c = .failure (.tampered suite) := by
  rw [outcome, h]
  rfl

theorem role_ne_sealing_of_tampered (hs : c.service.BuiltIn) (hhonest : c.service.supply.Honest)
    (h : op.error? c = some (.envelope (.tampered suite))) : op.role ≠ .sealing := by
  intro hrole
  have houtcome := outcome_of_tampered h
  cases htext : op.text? c with
  | none =>
    rcases outcome_of_no_text hrole htext with hother | hother
    · cases hother.symm.trans houtcome
    · cases hother.symm.trans houtcome
  | some text =>
    rcases outcome_of_text htext with ⟨e, -, hother | hother⟩ | ⟨cause, hcause, hother⟩
    · cases hother.symm.trans houtcome
    · cases hother.symm.trans houtcome
    · obtain rfl := EnvelopeError.eq_tampered_of_variant
        (StepOutcome.failure.inj (hother.symm.trans houtcome))
      rcases Service.concerns_of_encrypt hs hcause with hrefusal | hconcerns
      · exact hhonest _ _ hrefusal
      · exact hconcerns.2 suite rfl

/-- Only what was to be opened is found to be tampered with. -/
theorem role_of_tampered (hs : c.service.BuiltIn) (hhonest : c.service.supply.Honest)
    (h : op.error? c = some (.envelope (.tampered suite))) :
    op.role = .opening ∨ op.role = .openingWith := by
  have hsealing := role_ne_sealing_of_tampered hs hhonest h
  cases op with
  | decrypt wire => exact .inl rfl
  | reveal rule wire => exact .inl rfl
  | decryptEnvelope e => exact .inl rfl
  | decryptWith keys e => exact .inr rfl
  | encrypt text => exact absurd rfl hsealing
  | encryptToWire text => exact absurd rfl hsealing
  | encryptWithMask text mask => exact absurd rfl hsealing
  | protect rule value => exact absurd rfl hsealing
  | mask rule value =>
    cases hanswer : ((mask rule value).run c).1 <;> rw [error?, hanswer] at h <;> cases h
  | accepts rule value =>
    cases hanswer : ((accepts rule value).run c).1 <;> rw [error?, hanswer] at h <;> cases h
  | pattern text =>
    cases hanswer : ((pattern text).run c).1 <;> rw [error?, hanswer] at h <;> cases h
  | bindingFor other =>
    rcases hanswer : Service.bindingFor other c.service with ⟨result, s⟩
    have herror : (bindingFor other).errorOf (Service.bindingFor other c.service).1 =
      some (.envelope (.tampered suite)) := h
    rw [hanswer] at herror
    cases result with
    | ok kept => cases herror
    | error cause =>
      obtain ⟨rfl, -⟩ := Service.of_bindingFor_eq_error hanswer
      cases herror
  | pairFor other =>
    have herror : (pairFor other).errorOf (Service.pairFor other c.service).1 =
      some (.envelope (.tampered suite)) := h
    cases hanswer : (Service.pairFor other c.service).1 with
    | ok pair =>
      rw [hanswer] at herror
      cases herror
    | error cause =>
      rw [hanswer] at herror
      cases herror
      exact absurd (Service.pairFor_error_iff.1 hanswer) (hhonest other suite)
  | _ => cases h

theorem marks_of_opened? (hs : c.service.BuiltIn) (hhonest : c.service.supply.Honest)
    (h : op.opened? c = some suite) : op.marks c = [.decrypted suite] := by
  unfold opened? at h
  split at h
  · next herror =>
    obtain ⟨e, he, rfl⟩ := Option.map_eq_some_iff.1 h
    obtain ⟨hrole, houtcome⟩ := outcome_of_toOpen? he herror
    rw [op.marks_eq hs hhonest, houtcome]
    rcases hrole with hrole | hrole <;> rw [hrole] <;> rfl
  · cases h

theorem marks_of_tampered (hs : c.service.BuiltIn) (hhonest : c.service.supply.Honest)
    (h : op.error? c = some (.envelope (.tampered suite))) :
    op.marks c = [.failedAuthentication suite] := by
  rw [op.marks_eq hs hhonest, outcome_of_tampered h]
  rcases role_of_tampered hs hhonest h with hrole | hrole <;> rw [hrole] <;> rfl

/-- A failed authentication is reported only where it is the outcome. -/
theorem outcome_of_mem_marks {v : View} {o : StepOutcome} {role : Role}
    (h : .failedAuthentication suite ∈ role.marks v o) : o = .failure (.tampered suite) := by
  have hopening : .failedAuthentication suite ∈ Role.opening.marks v o →
      o = .failure (.tampered suite) := by
    intro hmem
    simp only [Role.marks] at hmem
    split at hmem <;> simp at hmem
    rw [hmem]
  cases role with
  | sealing =>
    rw [Role.marks] at h
    split at h <;> simp at h
  | opening => exact hopening h
  | openingWith => exact hopening h
  | register other => simp [Role.marks] at h
  | keys asked kinds => cases h
  | other => cases h

theorem tampered_of_mem_marks (hs : c.service.BuiltIn) (hhonest : c.service.supply.Honest)
    (h : .failedAuthentication suite ∈ op.marks c) :
    op.error? c = some (.envelope (.tampered suite)) := by
  rw [op.marks_eq hs hhonest] at h
  have houtcome := outcome_of_mem_marks h
  unfold outcome at houtcome
  split at houtcome
  · cases houtcome
  · next cause herror =>
    rw [herror, EnvelopeError.eq_tampered_of_variant (StepOutcome.failure.inj houtcome)]
  · cases houtcome

/-- An operation that neither makes nor opens an envelope, and finds none to be tampered with, reports
nothing about a value. -/
theorem marks_of_nothing (hs : c.service.BuiltIn) (hhonest : c.service.supply.Honest)
    (henvelope : op.envelope? c = none) (hopened : op.opened? c = none)
    (htampered : ∀ suite, op.error? c ≠ some (.envelope (.tampered suite))) :
    (op.marks c).filter Event.isMark = [] := by
  have hopening : Role.opening.marks c.view (op.outcome c) = [] := by
    rw [outcome]
    cases herror : op.error? c with
    | none =>
      have hnone : op.toOpen?.map (·.suite) = none := by rwa [opened?, herror] at hopened
      dsimp only
      rw [suite?, henvelope, Option.none_or, hnone]
      rfl
    | some cause =>
      cases cause with
      | mask cause => rfl
      | envelope cause =>
        cases cause with
        | tampered suite => exact absurd herror (htampered suite)
        | _ => rfl
  cases hrole : op.role with
  | sealing =>
    rw [(reports_of_sealing hrole c).2, henvelope]
    rfl
  | opening =>
    rw [op.marks_eq hs hhonest, hrole, hopening]
    rfl
  | openingWith =>
    have hsame : Role.openingWith.marks c.view (op.outcome c) = [] := hopening
    rw [op.marks_eq hs hhonest, hrole, hsame]
    rfl
  | register suite =>
    rw [op.marks_eq hs hhonest, hrole]
    rfl
  | keys asked kinds =>
    rw [op.marks_eq hs hhonest, hrole]
    rfl
  | other =>
    rw [op.marks_eq hs hhonest, hrole]
    rfl

end Operation

end FieldSeal

import FieldSeal.Proofs.Service.Spending
import FieldSeal.Proofs.Session.Basic

/-!
# Random bytes spent by operations

**Asking.** An operation asks the supply for keys of some kinds (`Operation.asks`): for those of the
active suite if it seals a text, for those of an envelope if it opens one.

**Spending** (`Operation.spends_run`). What is missing of these keys is drawn, and after them a nonce
if the operation seals a text, or a key that is kept nowhere if it generates one
(`Operation.others`).

**Answers** (`Operation.answers_run`). An operation that seals answers with the envelope that it
makes (`Operation.envelope?`). Whether the answer shows it is up to the mask.
-/

namespace FieldSeal

namespace Codec

/-- The supply and the stream. -/
def store (c : Codec) : KeySupply × Entropy := c.service.store

theorem taken_of_spends {kinds : List KeyKind} {uses : List Use} {c c' : Codec}
    (h : Spends kinds uses c.store c'.store) :
    c'.service.host.entropy.taken = c.service.host.entropy.taken + Use.total uses := h.taken_eq

end Codec

/-! ## Operations -/

namespace Operation

variable {α : Type} {c : Codec}

/-- The operation is there to seal a text. -/
def seals : {α : Type} → Operation α → Bool
  | _, encrypt _ | _, encryptToWire _ | _, encryptWithMask _ _ => true
  | _, protect _ value => !value.isEmpty
  | _, _ => false

/-- The text that is sealed, unless the operation refuses it. -/
def text? : {α : Type} → Operation α → Codec → Option String
  | _, encrypt text, _ | _, encryptToWire text, _ | _, encryptWithMask text _, _ => some text
  | _, protect rule value, c =>
    if value.isEmpty then none else (Masker.mask rule value c.masker).1.toOption.map fun _ => value
  | _, _, _ => none

/-- The envelope that the operation makes, whether or not its answer shows it. -/
def envelope? (op : Operation α) (c : Codec) : Option Envelope :=
  (op.text? c).bind fun text => (Service.encrypt text c.service).1.toOption

/-- The answer to sealing, and the envelope that was made. Between the two there is only the form in
which the envelope is answered, and a value may be refused before it is sealed. -/
inductive Answers : {α : Type} → Operation α → α → Option Envelope → Prop
  | encrypt {text : String} (result : Except EnvelopeError Envelope) :
    Answers (encrypt text) result result.toOption
  | encryptToWire {text : String} (result : Except EnvelopeError Envelope) :
    Answers (encryptToWire text) (result.map Envelope.toWire) result.toOption
  | encryptWithMask {text mask : String} (result : Except EnvelopeError Envelope) :
    Answers (encryptWithMask text mask) (result.bind (·.withMask mask)) result.toOption
  | protect {rule : MaskRule} {value mask : String} (result : Except EnvelopeError Envelope) :
    Answers (protect rule value) ((result.bind (·.withMask mask)).mapError .envelope)
      result.toOption
  | refuse {rule : MaskRule} {value : String} (cause : MaskError) :
    Answers (protect rule value) (.error (.mask cause)) none

/-- The kinds of keys for which the operation asks the supply. -/
def asks : {α : Type} → Operation α → Codec → List KeyKind
  | _, decrypt wire, _ | _, reveal _ wire, _ => Service.openingKinds wire
  | _, decryptEnvelope e, _ => KeyKind.requiredBy e.suite
  | _, pairFor suite, _ | _, ringPair suite, _ => KeyKind.requiredBy suite
  | _, ringKey kind, _ => [kind]
  | _, op, c => if (op.text? c).isSome then c.service.sealingKinds else []

/-- What the operation draws apart from keys that the supply keeps. -/
def others : {α : Type} → Operation α → Codec → List Use
  | _, generateKey kind, _ => [.loose kind]
  | _, op, c => if (op.text? c).isSome then c.service.sealing?.toList.map .nonce else []

/-! ### Answers -/

theorem protect_apply {rule : MaskRule} {value : String} (hvalue : ¬value.isEmpty) (c : Codec) :
    Codec.protect rule value c =
      match Masker.mask rule value c.masker with
      | (.error cause, masker) => (.error (.mask cause), { c with masker })
      | (.ok shown, masker) =>
        (Codec.onService (Service.encryptWithMask value shown) { c with masker }) := by
  rw [Codec.protect, if_neg hvalue, Action.bind_apply, Codec.onMasker]
  rcases hmask : Masker.mask rule value c.masker with ⟨result, masker⟩
  cases result <;> simp only [Action.mapError, Action.on_apply, hmask]

theorem answers_run {op : Operation α} (h : op.seals) (c : Codec) :
    op.Answers (op.run c).1 (op.envelope? c) := by
  cases op with
  | encrypt text => exact .encrypt _
  | encryptToWire text =>
    have hanswer : ((encryptToWire text).run c).1 =
        (Service.encrypt text c.service).1.map Envelope.toWire := by
      show ((Envelope.toWire <$> Service.encrypt text) c.service).1 = _
      rw [Action.map_apply]
    rw [hanswer]
    exact .encryptToWire _
  | encryptWithMask text shown =>
    have hanswer : ((encryptWithMask text shown).run c).1 =
        (Service.encrypt text c.service).1.bind (·.withMask shown) := by
      show (Service.encryptWithMask text shown c.service).1 = _
      rw [Service.encryptWithMask_apply]
    rw [hanswer]
    exact .encryptWithMask _
  | protect rule value =>
    have hvalue : ¬value.isEmpty := by simpa [seals] using h
    have hrun : ((protect rule value).run c).1 = (Codec.protect rule value c).1 := rfl
    rw [hrun, protect_apply hvalue, envelope?, text?, if_neg hvalue]
    rcases Masker.mask rule value c.masker with ⟨result, masker⟩
    cases result with
    | error cause => exact .refuse cause
    | ok shown =>
      have hanswer : (Codec.onService (Service.encryptWithMask value shown) { c with masker }).1 =
          ((Service.encrypt value c.service).1.bind (·.withMask shown)).mapError .envelope := by
        rw [Codec.onService, Action.mapError_apply, Action.on_apply, Service.encryptWithMask_apply]
      dsimp only
      rw [hanswer]
      exact .protect _
  | _ => cases h

/-! ### Draws -/

theorem spends_protect (hc : c.service.BuiltIn) (hsized : c.service.supply.Sized) (rule : MaskRule)
    (value : String) :
    Spends ((protect rule value).asks c)
      (c.service.supply.missing ((protect rule value).asks c) ++ (protect rule value).others c)
      c.store (Codec.protect rule value c).2.store := by
  by_cases hvalue : value.isEmpty
  · simp only [asks, others, text?, if_pos hvalue]
    rw [Codec.protect_of_isEmpty hvalue]
    exact Spends.refl _
  · rw [protect_apply hvalue]
    simp only [asks, others, text?, if_neg hvalue]
    rcases Masker.mask rule value c.masker with ⟨result, masker⟩
    cases result with
    | error cause => exact Spends.refl _
    | ok shown =>
      dsimp only
      rw [Codec.onService, Action.mapError_apply, Action.on_apply, Service.encryptWithMask_apply]
      exact Service.spends_encrypt hc hsized value

theorem spends_reveal (rule : MaskRule) (text : String) (c : Codec) :
    Spends (Service.openingKinds text) (c.service.supply.missing (Service.openingKinds text)) c.store
      (Codec.reveal rule text c).2.store := by
  by_cases henvelope : Envelope.isEnvelope text
  · rw [Codec.reveal_of_isEnvelope henvelope, Codec.onService, Action.mapError_apply,
      Action.on_apply]
    exact Service.spends_decrypt text c.service
  · rw [Service.openingKinds_of_not_envelope henvelope, Codec.store, Codec.store,
      Codec.service_reveal_of_not_isEnvelope henvelope]
    exact Spends.refl _

theorem spends_askRing {β : Type} {f : KeyRing × Host → β × KeyRing × Host} {kinds : List KeyKind}
    (hf : ∀ ring warned host, Spends kinds ((KeySupply.generated ring warned).missing kinds)
      (.generated ring warned, host.entropy)
      (.generated (f (ring, host)).2.1 warned, (f (ring, host)).2.2.entropy)) (c : Codec) :
    Spends kinds (c.service.supply.missing kinds) c.store
      (onSupply (KeySupply.askRing f) c).2.store := by
  show Spends kinds (c.service.supply.missing kinds) (c.service.supply, c.service.host.entropy)
    ((KeySupply.askRing f (c.service.supply, c.service.host)).2.1,
      (KeySupply.askRing f (c.service.supply, c.service.host)).2.2.entropy)
  cases c.service.supply with
  | fixed answer => exact KeySupply.spends_fixed answer kinds _
  | generated ring warned => exact hf ring warned c.service.host

/-- What an operation draws. -/
theorem spends_run (op : Operation α) (hc : c.service.BuiltIn) (hsized : c.service.supply.Sized) :
    Spends (op.asks c) (c.service.supply.missing (op.asks c) ++ op.others c) c.store
      (op.run c).2.store := by
  have hnothing : ∀ c' : Codec, c'.store = c.store → Spends [] [] c.store c'.store := by
    intro c' h
    rw [h]
    exact Spends.refl _
  have hkeys : ∀ {kinds : List KeyKind} {s' : KeySupply × Entropy},
      Spends kinds (c.service.supply.missing kinds) c.store s' →
        Spends kinds (c.service.supply.missing kinds ++ []) c.store s' := by
    intro kinds s' h
    rwa [List.append_nil]
  cases op with
  | encrypt text => exact Service.spends_encrypt hc hsized text
  | encryptToWire text =>
    show Spends _ _ _ ((Envelope.toWire <$> Service.encrypt text) c.service).2.store
    rw [Action.map_apply]
    exact Service.spends_encrypt hc hsized text
  | encryptWithMask text shown =>
    show Spends _ _ _ (Service.encryptWithMask text shown c.service).2.store
    rw [Service.encryptWithMask_apply]
    exact Service.spends_encrypt hc hsized text
  | decrypt wire => exact hkeys (Service.spends_decrypt wire c.service)
  | decryptEnvelope e => exact hkeys (Service.spends_decryptEnvelope e c.service)
  | decryptWith keys e => exact hnothing _ (Service.sameStore_decryptWith keys e c.service)
  | protect rule value => exact spends_protect hc hsized rule value
  | reveal rule text => exact hkeys (spends_reveal rule text c)
  | mask rule value => exact hnothing _ rfl
  | accepts rule value => exact hnothing _ rfl
  | pattern text => exact hnothing _ rfl
  | activeSuite => exact hnothing _ rfl
  | setPolicy policy => exact hnothing _ rfl
  | supportedSuites => exact hnothing _ rfl
  | bindingFor suite => exact hnothing _ (Service.sameStore_bindingFor suite c.service)
  | register sealer => exact hnothing _ rfl
  | put sealer => exact hnothing _ rfl
  | pairFor suite => exact hkeys (Service.spends_pairFor suite c.service)
  | ringPair suite =>
    exact hkeys (spends_askRing (fun ring warned host =>
      KeyRing.spends_pairFor suite ring warned warned host) c)
  | ringKey kind =>
    exact hkeys (spends_askRing (fun ring warned host =>
      KeyRing.spends_get kind ring warned warned host) c)
  | generateKey kind =>
    exact Spends.of_others [.loose kind] (by simp) c.service.supply c.service.host.entropy

/-- Keys are asked for in the order of their kinds. -/
theorem sublist_asks (op : Operation α) (c : Codec) : (op.asks c).Sublist KeyKind.all := by
  have hrequired : ∀ suite, (KeyKind.requiredBy suite).Sublist KeyKind.all := by
    intro suite
    cases suite <;> decide
  have hopening : ∀ wire, (Service.openingKinds wire).Sublist KeyKind.all := by
    intro wire
    unfold Service.openingKinds
    split
    · exact hrequired _
    · exact List.nil_sublist _
  have hsealing : (if (op.text? c).isSome then c.service.sealingKinds else []).Sublist
      KeyKind.all := by
    unfold Service.sealingKinds
    split
    · split
      · exact hrequired _
      · exact List.nil_sublist _
    · exact List.nil_sublist _
  cases op with
  | decrypt wire => exact hopening wire
  | reveal rule wire => exact hopening wire
  | decryptEnvelope e => exact hrequired e.suite
  | pairFor suite => exact hrequired suite
  | ringPair suite => exact hrequired suite
  | ringKey kind => exact List.singleton_sublist.2 kind.mem_all
  | _ => exact hsealing

theorem kept_notMem_others (op : Operation α) {kind : KeyKind} : .kept kind ∉ op.others c := by
  have hsealing : .kept kind ∉
      if (op.text? c).isSome then c.service.sealing?.toList.map Use.nonce else [] := by
    split <;> simp
  cases op with
  | generateKey other => simp [others]
  | _ => exact hsealing

/-! ### Sealing and what it draws -/

variable {op : Operation α} {text : String} {e : Envelope}

theorem draws_of_text (h : op.text? c = some text) :
    op.asks c = c.service.sealingKinds ∧ op.others c = c.service.sealing?.toList.map .nonce := by
  cases op with
  | encrypt text => exact ⟨rfl, rfl⟩
  | encryptToWire text => exact ⟨rfl, rfl⟩
  | encryptWithMask text shown => exact ⟨rfl, rfl⟩
  | protect rule value =>
    simp only [asks, others, h, Option.isSome_some, if_true, and_self]
  | _ => cases h

theorem draws_of_no_text (hseals : op.seals) (h : op.text? c = none) :
    op.asks c = [] ∧ op.others c = [] := by
  cases op with
  | protect rule value =>
    simp [asks, others, h]
  | encrypt text => cases h
  | encryptToWire text => cases h
  | encryptWithMask text shown => cases h
  | _ => cases hseals

theorem exists_of_envelope? (h : op.envelope? c = some e) :
    ∃ text, op.text? c = some text ∧ (Service.encrypt text c.service).1 = .ok e := by
  obtain ⟨text, htext, hresult⟩ := Option.bind_eq_some_iff.1 h
  exact ⟨text, htext, except_toOption_eq_some_iff.1 hresult⟩

end Operation

end FieldSeal

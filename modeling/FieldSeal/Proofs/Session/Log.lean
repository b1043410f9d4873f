import FieldSeal.Proofs.Service.Log
import FieldSeal.Proofs.Session.Spending

/-!
# What operations report

**Operations** (`Operation.reports_run`). An operation reports the notices of the keys for which it
asks and then its marks (`Operation.marks`): a registration, an envelope that was made, or the
verdict on an envelope that was to be opened. Masks and patterns are worked out without a word. This
holds whatever sealers are registered.
-/

namespace FieldSeal

namespace Operation

variable {α : Type} {c : Codec}

/-- The keys are asked for of the supply itself, not of its ring. -/
def asked : {α : Type} → Operation α → Codec → Bool
  | _, ringPair _, _ | _, ringKey _, _ => false
  | _, op, c => !(op.asks c).isEmpty

/-- What the operation reports besides notices about keys. -/
def marks : {α : Type} → Operation α → Codec → List Event
  | _, decryptWith keys e, c => Service.verdict e.suite (Service.decryptWith keys e c.service).1
  | _, decryptEnvelope e, c => Service.openMarks e c.service
  | _, decrypt wire, c | _, reveal _ wire, c => Service.readMarks wire c.service
  | _, register sealer, _ | _, put sealer, _ => [.registered sealer.suite]
  | _, op, c => (op.envelope? c).toList.map fun _ => .encrypted c.service.policy.ask.1

theorem reports_protect (rule : MaskRule) (value : String) (c : Codec) :
    Reports ((protect rule value).asked c) ((protect rule value).asks c)
      ((protect rule value).marks c) c.service.journal
      (Codec.protect rule value c).2.service.journal := by
  by_cases hvalue : value.isEmpty
  · simp only [asked, asks, marks, envelope?, text?, if_pos hvalue]
    rw [Codec.protect_of_isEmpty hvalue]
    exact Reports.refl _
  · rw [protect_apply hvalue]
    simp only [asked, asks, marks, envelope?, text?, if_neg hvalue]
    rcases Masker.mask rule value c.masker with ⟨result, masker⟩
    cases result with
    | error cause => exact Reports.refl _
    | ok shown =>
      dsimp only
      rw [Codec.onService, Action.mapError_apply, Action.on_apply, Service.encryptWithMask_apply]
      exact Service.reports_encrypt value c.service

theorem reports_reveal (rule : MaskRule) (wire : String) (c : Codec) :
    Reports ((reveal rule wire).asked c) (Service.openingKinds wire)
      (Service.readMarks wire c.service) c.service.journal
      (Codec.reveal rule wire c).2.service.journal := by
  by_cases henvelope : Envelope.isEnvelope wire
  · rw [Codec.reveal_of_isEnvelope henvelope, Codec.onService, Action.mapError_apply,
      Action.on_apply]
    exact Service.reports_decrypt wire c.service
  · simp only [asked, asks, Service.openingKinds_of_not_envelope henvelope,
      Service.readMarks_of_not_envelope henvelope,
      Codec.service_reveal_of_not_isEnvelope henvelope]
    exact Reports.refl _

theorem reports_askRing {β : Type} {f : KeyRing × Host → β × KeyRing × Host} {kinds : List KeyKind}
    (hf : ∀ ring warned host, Reports false kinds [] (.generated ring warned, host.events)
      (.generated (f (ring, host)).2.1 warned, (f (ring, host)).2.2.events)) (c : Codec) :
    Reports false kinds [] c.service.journal
      (onSupply (KeySupply.askRing f) c).2.service.journal := by
  show Reports false kinds [] (c.service.supply, c.service.host.events)
    ((KeySupply.askRing f (c.service.supply, c.service.host)).2.1,
      (KeySupply.askRing f (c.service.supply, c.service.host)).2.2.events)
  cases c.service.supply with
  | fixed answer => exact Reports.of_settled rfl fun _ _ => rfl
  | generated ring warned => exact hf ring warned c.service.host

/-- What an operation reports. -/
theorem reports_run (op : Operation α) (c : Codec) :
    Reports (op.asked c) (op.asks c) (op.marks c) c.service.journal
      (op.run c).2.service.journal := by
  cases op with
  | encrypt text => exact Service.reports_encrypt text c.service
  | encryptToWire text =>
    show Reports _ _ _ _ ((Envelope.toWire <$> Service.encrypt text) c.service).2.journal
    rw [Action.map_apply]
    exact Service.reports_encrypt text c.service
  | encryptWithMask text shown =>
    show Reports _ _ _ _ (Service.encryptWithMask text shown c.service).2.journal
    rw [Service.encryptWithMask_apply]
    exact Service.reports_encrypt text c.service
  | decrypt wire => exact Service.reports_decrypt wire c.service
  | decryptEnvelope e =>
    have hasked : (decryptEnvelope e).asked c = true := by
      simp only [asked, asks]
      cases e.suite <;> rfl
    rw [hasked]
    exact Service.reports_decryptEnvelope e c.service
  | decryptWith keys e =>
    show Reports _ _ _ _ (Service.decryptWith keys e c.service).2.journal
    rw [Service.journal_decryptWith]
    exact (Reports.refl c.service.journal).mark _
  | protect rule value => exact reports_protect rule value c
  | reveal rule wire => exact reports_reveal rule wire c
  | bindingFor suite =>
    show Reports _ _ _ _ (Service.bindingFor suite c.service).2.journal
    rw [Service.journal_bindingFor]
    exact Reports.refl _
  | register sealer => exact (Reports.refl c.service.journal).mark [.registered sealer.suite]
  | put sealer => exact (Reports.refl c.service.journal).mark [.registered sealer.suite]
  | pairFor suite =>
    have hasked : (pairFor suite).asked c = true := by cases suite <;> rfl
    rw [hasked]
    exact Service.reports_pairFor suite c.service
  | ringPair suite => exact reports_askRing (KeyRing.reports_pairFor suite) c
  | ringKey kind => exact reports_askRing (KeyRing.reports_get kind) c
  | _ => exact Reports.refl _

end Operation

end FieldSeal

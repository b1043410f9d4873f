import FieldSeal.Codec
import FieldSeal.Proofs.Service.Readable

/-!
# Values through the codec

`protect` and `reveal` are mirror images on single values. An empty value stays what it is both
times (`protect_empty`, `reveal_empty`). Any other value is sealed, and what was sealed is readable
(`readable_of_protect`) and revealed again under any rule (`reveal_of_readable`).

The masker has no say in what is readable, so a codec moves as its service does (`Follows`).
-/

namespace FieldSeal.Codec

variable {c c' c'' : Codec} {rule : MaskRule} {value wire : String}

/-- The service of the second codec can do whatever that of the first can. -/
def Follows (c c' : Codec) : Prop := c.service.Follows c'.service

theorem Follows.refl (c : Codec) : Follows c c := Service.Follows.refl c.service

theorem Follows.trans (h : Follows c c') (h' : Follows c' c'') : Follows c c'' :=
  Service.Follows.trans h h'

instance : IsPreorder Codec Follows where
  refl := Follows.refl
  trans _ _ _ := Follows.trans

theorem along_onService {α : Type} {a : Service.Step α} (h : Action.Along Service.Follows a) :
    Action.Along Follows (onService a) :=
  Action.along_mapError _ (Action.along_on h fun _ _ hs => hs)

theorem along_onMasker {α : Type} (a : Masker.Step α) : Action.Along Follows (onMasker a) := by
  refine Action.along_mapError _ ?_
  intro c
  exact Follows.refl c

theorem onService_eq_ok_iff {α : Type} {a : Service.Step α} {x : α} :
    onService a c = (.ok x, c') ↔
      ∃ s, a c.service = (.ok x, s) ∧ { c with service := s } = c' := by
  rw [onService, Action.mapError_eq_ok_iff, Action.on_eq_ok_iff]

/-! ## Protecting -/

theorem along_protect (rule : MaskRule) (value : String) :
    Action.Along Follows (protect rule value) := by
  unfold protect
  split
  · exact Action.along_pure _
  · refine Action.along_bind (along_onMasker _) fun mask => ?_
    exact along_onService (Service.along_encryptWithMask value mask)

theorem protect_empty (rule : MaskRule) (c : Codec) : protect rule "" c = (.ok "", c) := rfl

theorem protect_of_isEmpty (h : value.isEmpty) (rule : MaskRule) (c : Codec) :
    protect rule value c = (.ok "", c) := by
  rw [String.isEmpty_iff.1 h, protect_empty]

/-- What was protected is readable from then on. -/
theorem readable_of_protect (hc : c.service.BuiltIn) (hvalue : value ≠ "")
    (h : protect rule value c = (.ok wire, c')) : c'.service.Readable wire value := by
  have hempty : ¬value.isEmpty := by rwa [String.isEmpty_iff]
  rw [protect, if_neg hempty] at h
  obtain ⟨mask, c₁, hmask, h⟩ := Action.bind_eq_ok_iff.1 h
  obtain ⟨s, hs, rfl⟩ := onService_eq_ok_iff.1 h
  have hfollows := along_onMasker (Masker.mask rule value) c
  rw [hmask] at hfollows
  exact Service.readable_of_encryptWithMask (hfollows.builtIn hc) hs

/-! ## Revealing -/

theorem along_reveal (rule : MaskRule) (text : String) :
    Action.Along Follows (reveal rule text) := by
  unfold reveal
  split
  · exact Action.along_pure _
  · split
    · exact along_onService (Service.along_decrypt text)
    · refine Action.along_bind (along_onMasker _) fun accepted => ?_
      split
      · exact Action.along_pure _
      · exact Action.along_throw _

theorem reveal_empty (rule : MaskRule) (c : Codec) : reveal rule "" c = (.ok "", c) := rfl

/-- What looks like an envelope is opened, whatever the rule. -/
theorem reveal_of_isEnvelope (h : Envelope.isEnvelope wire) (rule : MaskRule) :
    reveal rule wire = onService (Service.decrypt wire) := by
  have hempty : ¬wire.isEmpty := by
    rw [String.isEmpty_iff]
    rintro rfl
    revert h
    decide
  rw [reveal, if_neg hempty, if_pos h]

/-- A value that does not look like an envelope never reaches the service. -/
theorem service_reveal_of_not_isEnvelope (h : ¬Envelope.isEnvelope wire) (rule : MaskRule)
    (c : Codec) : (reveal rule wire c).2.service = c.service := by
  unfold reveal
  rw [if_neg h]
  split
  · rfl
  · rw [Action.bind_apply, onMasker, Action.mapError_apply, Action.on_apply]
    rcases Masker.accepts rule wire c.masker with ⟨result, masker⟩
    cases result with
    | error cause => rfl
    | ok accepted => cases accepted <;> rfl

/-- A readable text is revealed, whatever the rule. -/
theorem reveal_of_readable (hc : c.service.BuiltIn) (h : c.service.Readable wire value) :
    ∃ c', reveal rule wire c = (.ok value, c') := by
  obtain ⟨e, hparse, hopens⟩ := h
  have hdecrypt := Service.decrypt_of_readable hc ⟨e, hparse, hopens⟩
  refine ⟨{ c with service := (Service.decrypt wire c.service).2 }, ?_⟩
  rw [reveal_of_isEnvelope (Envelope.isEnvelope_of_parse hparse), onService_eq_ok_iff]
  exact ⟨_, Prod.ext hdecrypt rfl, rfl⟩

end FieldSeal.Codec

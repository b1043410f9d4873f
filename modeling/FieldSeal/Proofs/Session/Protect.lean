import FieldSeal.Proofs.Masker
import FieldSeal.Proofs.Service.Fault
import FieldSeal.Proofs.Session.Log
import FieldSeal.Proofs.Session.Spending

/-!
# Protecting a value

**Theorem (`masks_fit_envelopes`).** Protecting fails for the mask exactly if masking does, and then it
has done nothing. A mask that was made always fits the envelope: it is shown as it is, and it is never
the reason for a failure. A failure for want of a sealer or of keys has drawn no random byte and made
no key. With generated keys and with given pairs the answer is never that an envelope is malformed
(`protect_ne_malformed`).

**The answer** (`Codec.protect_of_mask`). A value is masked first. What is answered after this is the
answer to sealing the value, with the mask behind the envelope.
-/

namespace FieldSeal

namespace Codec

variable {c : Codec} {rule : MaskRule} {value shown wire : String} {cause : EnvelopeError}

/-- A value that is not masked is not sealed. -/
theorem protect_of_mask_error {cause : MaskError}
    (h : (Masker.mask rule value c.masker).1 = .error cause) :
    ∃ masker, protect rule value c = (.error (.mask cause), { c with masker }) := by
  -- An empty value is blank, and masking it succeeds.
  have hvalue : ¬value.isEmpty := by
    rw [String.isEmpty_iff]
    rintro rfl
    rw [Masker.mask_of_isBlankText rfl] at h
    cases h
  refine ⟨(Masker.mask rule value c.masker).2, ?_⟩
  rw [Operation.protect_apply hvalue]
  rcases hmask : Masker.mask rule value c.masker with ⟨result, masker⟩
  rw [hmask] at h
  cases h
  rfl

/-- A value that is masked is sealed, and its mask fits the envelope. -/
theorem protect_of_mask (hvalue : value ≠ "") (h : (Masker.mask rule value c.masker).1 = .ok shown) :
    (protect rule value c).1 =
        ((Service.encrypt value c.service).1.map (·.toWire ++ shown)).mapError .envelope ∧
      (protect rule value c).2.service = (Service.encrypt value c.service).2 := by
  have hdelimiter := Masker.delimiter_notMem_of_mask h
  have hbind : (Service.encrypt value c.service).1.bind (·.withMask shown) =
      (Service.encrypt value c.service).1.map (·.toWire ++ shown) := by
    cases (Service.encrypt value c.service).1 with
    | error cause => rfl
    | ok e => exact Envelope.withMask_eq_ok hdelimiter e
  rw [Operation.protect_apply (by rwa [String.isEmpty_iff])]
  rcases hmask : Masker.mask rule value c.masker with ⟨result, masker⟩
  rw [hmask] at h
  cases h
  dsimp only
  rw [onService, Action.mapError_apply, Action.on_apply, Service.encryptWithMask_apply, hbind]
  exact ⟨rfl, rfl⟩

/-- Protecting fails for the mask if and only if masking fails. -/
theorem protect_eq_mask_error_iff {cause : MaskError} :
    (protect rule value c).1 = .error (.mask cause) ↔
      (Masker.mask rule value c.masker).1 = .error cause := by
  constructor
  · intro h
    cases hmask : (Masker.mask rule value c.masker).1 with
    | error other =>
      obtain ⟨masker, hprotect⟩ := protect_of_mask_error hmask
      rw [hprotect] at h
      cases h
      rfl
    | ok shown =>
      by_cases hvalue : value = ""
      · rw [hvalue, protect_empty] at h
        cases h
      · rw [(protect_of_mask hvalue hmask).1] at h
        cases hencrypt : (Service.encrypt value c.service).1 <;> rw [hencrypt] at h <;> cases h
  · intro h
    obtain ⟨masker, hprotect⟩ := protect_of_mask_error h
    rw [hprotect]

/-- Any other failure is one of sealing. -/
theorem encrypt_of_protect_error (h : (protect rule value c).1 = .error (.envelope cause)) :
    (Service.encrypt value c.service).1 = .error cause ∧
      (protect rule value c).2.service = (Service.encrypt value c.service).2 := by
  have hvalue : value ≠ "" := by
    rintro rfl
    rw [protect_empty] at h
    cases h
  cases hmask : (Masker.mask rule value c.masker).1 with
  | error other =>
    obtain ⟨masker, hprotect⟩ := protect_of_mask_error hmask
    rw [hprotect] at h
    cases h
  | ok shown =>
    obtain ⟨hanswer, hservice⟩ := protect_of_mask hvalue hmask
    rw [hanswer] at h
    refine ⟨?_, hservice⟩
    cases hencrypt : (Service.encrypt value c.service).1 with
    | error other =>
      rw [hencrypt] at h
      cases h
      rfl
    | ok e =>
      rw [hencrypt] at h
      cases h

theorem protect_of_encrypt {e : Envelope} (hvalue : value ≠ "")
    (hmask : (Masker.mask rule value c.masker).1 = .ok shown)
    (hencrypt : (Service.encrypt value c.service).1 = .ok e) :
    (protect rule value c).1 = .ok (e.toWire ++ shown) := by
  rw [(protect_of_mask hvalue hmask).1, hencrypt]
  rfl

/-- A value that can be masked is protected if it can be sealed. -/
theorem exists_protect {suite : Suite} (hc : c.service.BuiltIn) (hsized : c.service.supply.Sized)
    (hvalue : value ≠ "") (hmask : (Masker.mask rule value c.masker).1 = .ok shown)
    (hsealing : c.service.sealing? = some suite) (hlong : ¬suite.Overflows value) :
    ∃ wire, (protect rule value c).1 = .ok wire := by
  obtain ⟨e, hencrypt⟩ := Service.exists_encrypt hc hsized hsealing hlong
  exact ⟨_, protect_of_encrypt hvalue hmask hencrypt⟩

/-- What is answered is an envelope of the value with its mask behind it. -/
theorem exists_toWire_of_protect (hvalue : value ≠ "") (h : (protect rule value c).1 = .ok wire) :
    ∃ e shown, (Service.encrypt value c.service).1 = .ok e ∧
      (Masker.mask rule value c.masker).1 = .ok shown ∧ wire = e.toWire ++ shown := by
  cases hmask : (Masker.mask rule value c.masker).1 with
  | error other =>
    obtain ⟨masker, hprotect⟩ := protect_of_mask_error hmask
    rw [hprotect] at h
    cases h
  | ok shown =>
    rw [(protect_of_mask hvalue hmask).1] at h
    cases hencrypt : (Service.encrypt value c.service).1 with
    | error other =>
      rw [hencrypt] at h
      cases h
    | ok e =>
      rw [hencrypt] at h
      cases h
      exact ⟨e, shown, rfl, rfl, rfl⟩

/-- What is answered shows the mask. -/
theorem displayMask_of_protect (hvalue : value ≠ "")
    (hmask : (Masker.mask rule value c.masker).1 = .ok shown)
    (h : (protect rule value c).1 = .ok wire) : Envelope.displayMask wire = some shown := by
  obtain ⟨e, shown', -, hmask', rfl⟩ := exists_toWire_of_protect hvalue h
  cases hmask.symm.trans hmask'
  exact Envelope.displayMask_of_fields
    (Envelope.fields_written e (Masker.delimiter_notMem_of_mask hmask))

/-- What is answered denotes an envelope of the active suite and shows the mask. -/
theorem exists_envelope_of_protect (hc : c.service.BuiltIn) (hvalue : value ≠ "")
    (h : (protect rule value c).1 = .ok wire) :
    ∃ e shown, Envelope.parse wire = .ok e ∧ e.suite = c.service.policy.ask.1 ∧
      (Masker.mask rule value c.masker).1 = .ok shown ∧ Envelope.displayMask wire = some shown := by
  obtain ⟨e, shown, hencrypt, hmask, rfl⟩ := exists_toWire_of_protect hvalue h
  obtain ⟨s, hs⟩ := Action.exists_state_of_fst hencrypt
  have hparse := Envelope.parse_toWire_append (Service.opens_of_encrypt hc hs).2
    (Masker.delimiter_notMem_of_mask hmask)
  exact ⟨e, shown, hparse, (Service.suite_of_encrypt hc hencrypt).1, hmask,
    displayMask_of_protect hvalue hmask h⟩

end Codec

/-! ## Sessions -/

namespace Session

variable {session : Session} {c : Codec}

/-- Generated keys keep their lengths, and given ones stay as they are. -/
theorem sized_run (h : session.BuiltIn) (hc : c.service.BuiltIn) (hsized : c.service.supply.Sized) :
    (session.run c).service.supply.Sized := by
  induction session generalizing c with
  | nil => exact hsized
  | cons step rest ih =>
    have hstep := step.2.follows_run (h step List.mem_cons_self) c
    exact ih (fun other hother => h other (List.mem_cons_of_mem _ hother)) (hstep.builtIn hc)
      ((step.2.spends_run hc hsized).sized hsized)

/-- The supply refuses what it always refused. -/
theorem refusal?_run (session : Session) (c : Codec) :
    (session.run c).service.supply.refusal? = c.service.supply.refusal? := by
  induction session generalizing c with
  | nil => rfl
  | cons step rest ih => exact (ih _).trans (step.2.reports_run c).refusal?

/-- Whatever was asked of the codec before, only the supply can say that something is malformed. -/
theorem refusal?_of_protect_malformed {suites : List Suite} {policy : Policy} {supply : KeySupply}
    {host : Host} {rule : MaskRule} {value : String} {fault : Malformation}
    (hsession : session.BuiltIn)
    (h : (Codec.protect rule value (session.run (start suites policy supply host))).1 =
      .error (.envelope (.malformed fault))) :
    supply.refusal? (session.run (start suites policy supply host)).service.policy.ask.1 =
      some (.malformed fault) := by
  have hc : (session.run (start suites policy supply host)).service.BuiltIn :=
    (follows_run hsession _).builtIn (builtIn_start suites policy supply host)
  have hrefusal : (session.run (start suites policy supply host)).service.supply.refusal? =
      supply.refusal? := refusal?_run session _
  rw [← hrefusal]
  exact Service.refusal?_of_malformed hc (Codec.encrypt_of_protect_error h).1

/-- **Masks fit envelopes.** Let the sealers be built in, and let anything be asked of the codec. Then
for every rule and every value:

- No mask holds a delimiter, whatever the masker has done before. So what is answered to `protect` is
  never that an envelope is malformed, unless it is the supply itself that refuses keys with that.
- If a value that is not empty is protected, the answer denotes an envelope of the active suite, and
  what it shows is the mask of the value.
- Protecting fails for the mask exactly if masking fails, for the same reason. Then the service is as
  it was: its bindings, its keys, the random bytes and the events.
- If there is no sealer, or if a key is missing or has the wrong length, then no key was made and no
  random byte drawn. -/
theorem masks_fit_envelopes (suites : List Suite) (policy : Policy) (supply : KeySupply) (host : Host)
    (session : Session) (hsession : session.BuiltIn) (hsized : supply.Sized) (rule : MaskRule)
    (value : String) :
    let c := session.run (start suites policy supply host)
    (∀ (m : Masker) (shown : String), (Masker.mask rule value m).1 = .ok shown →
      Envelope.delimiter ∉ shown.toList) ∧
    (∀ fault, (Codec.protect rule value c).1 = .error (.envelope (.malformed fault)) →
      supply.refusal? c.service.policy.ask.1 = some (.malformed fault)) ∧
    (∀ wire, value ≠ "" → (Codec.protect rule value c).1 = .ok wire →
      ∃ e shown, Envelope.parse wire = .ok e ∧ e.suite = c.service.policy.ask.1 ∧
        (Masker.mask rule value c.masker).1 = .ok shown ∧
        Envelope.displayMask wire = some shown) ∧
    (∀ cause, (Codec.protect rule value c).1 = .error (.mask cause) ↔
      (Masker.mask rule value c.masker).1 = .error cause) ∧
    (∀ cause, (Codec.protect rule value c).1 = .error (.mask cause) →
      (Codec.protect rule value c).2.service = c.service) ∧
    ∀ cause, (Codec.protect rule value c).1 = .error (.envelope cause) → cause.lacksMeans →
      (Codec.protect rule value c).2.service.store = c.service.store := by
  intro c
  have hstart := builtIn_start suites policy supply host
  have hc : c.service.BuiltIn := (follows_run hsession _).builtIn hstart
  have hsized' : c.service.supply.Sized := sized_run hsession hstart hsized
  refine ⟨fun m shown => Masker.delimiter_notMem_of_mask,
    fun fault h => refusal?_of_protect_malformed hsession h,
    fun wire hvalue h => Codec.exists_envelope_of_protect hc hvalue h,
    fun cause => Codec.protect_eq_mask_error_iff, fun cause h => ?_, fun cause h hcause => ?_⟩
  · obtain ⟨masker, hprotect⟩ :=
      Codec.protect_of_mask_error (Codec.protect_eq_mask_error_iff.1 h)
    rw [hprotect]
  · obtain ⟨hencrypt, hservice⟩ := Codec.encrypt_of_protect_error h
    have hsealing := Service.sealing?_of_lacksMeans hc hsized' hencrypt hcause
    rw [hservice]
    exact Service.sameStore_encrypt_of_not_sealing hc hsized' hsealing value

/-- A value of delimiters is sealed with a mask of stars, and one that is too short to be masked changes
nothing. -/
theorem mask_of_delimiters_fits :
    let session : Session := [⟨_, .encrypt "x"⟩]
    let c := session.run (start [.modern] (.always .modern) .fresh ⟨⟨fun _ => 0, 0⟩, []⟩)
    let rule := MaskRule.custom 1 0 "" true
    session.BuiltIn ∧ KeySupply.fresh.Sized ∧
      (∃ wire e, (Codec.protect rule "|||" c).1 = .ok wire ∧ Envelope.parse wire = .ok e ∧
        e.suite = .modern ∧ Envelope.displayMask wire = some "***") ∧
      (Codec.protect rule "|" c).1 = .error (.mask (.tooShort 1 1)) ∧
      (Codec.protect rule "|" c).2.service = c.service := by
  intro session c rule
  have hsession : session.BuiltIn := by simp [session, BuiltIn, Operation.BuiltIn]
  have hsized : KeySupply.fresh.Sized := fun _ _ => nofun
  obtain ⟨-, -, hsealed, -⟩ := masks_fit_envelopes [.modern] (.always .modern) .fresh
    ⟨⟨fun _ => 0, 0⟩, []⟩ session hsession hsized rule "|||"
  obtain ⟨-, -, -, -, hkeeps, -⟩ := masks_fit_envelopes [.modern] (.always .modern) .fresh
    ⟨⟨fun _ => 0, 0⟩, []⟩ session hsession hsized rule "|"
  have hshort : (Codec.protect rule "|" c).1 = .error (.mask (.tooShort 1 1)) := by decide +kernel
  have hstars : (Masker.mask rule "|||" c.masker).1 = .ok "***" := by decide +kernel
  obtain ⟨wire, hwire⟩ := except_isOk_iff.1
    (by decide +kernel : (Codec.protect rule "|||" c).1.isOk)
  obtain ⟨e, shown, hparse, hsuite, hmask, hshown⟩ := hsealed wire (by decide) hwire
  cases hmask.symm.trans hstars
  exact ⟨hsession, hsized, ⟨wire, e, hwire, hparse, hsuite, hshown⟩, hshort, hkeeps _ hshort⟩

/-- **Nothing malformed comes of protecting.** With generated keys and with given pairs, for some suites
or for none, `protect` never answers that an envelope is malformed, whatever was asked before. -/
theorem protect_ne_malformed {supply : KeySupply}
    (hsupply : supply = .fresh ∨ ∃ pair?, supply = .ofPairs pair?) (hsession : session.BuiltIn)
    (suites : List Suite) (policy : Policy) (host : Host) (rule : MaskRule) (value : String)
    (fault : Malformation) :
    (Codec.protect rule value (session.run (start suites policy supply host))).1 ≠
      .error (.envelope (.malformed fault)) := by
  intro h
  have hrefusal := refusal?_of_protect_malformed hsession h
  rcases hsupply with rfl | ⟨pair?, rfl⟩
  · rw [KeySupply.fresh, KeySupply.refusal?_generated] at hrefusal
    cases hrefusal
  · rw [KeySupply.refusal?_ofPairs] at hrefusal
    cases hrefusal

end Session

end FieldSeal

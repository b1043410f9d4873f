import FieldSeal.Proofs.Envelope.Readers
import FieldSeal.Proofs.Session.Binding

/-!
# The ways to open a text agree

**Theorem (`ways_to_open_agree`).** A text can be opened by the service, with keys from the supply or
with keys that the caller has, and by a binding, which moves to the sealer that supports the text or
is moved to the suite of the envelope. Each of them looks up the sealer in a way of its own. As long
as no sealer is put into the registry past the service, all give the same answer (`Registry.opens`):
the text, or the error that comes first in an order that they share.

**The invariant** (`Service.Settled`). The bindings that a service keeps are to the sealers that are
registered. Registering with the service drops the binding of the suite, and a lookup binds what is
registered, so no other operation breaks it.
-/

namespace FieldSeal

open Sealer (Meets)

variable {α : Type} {s s' : Service} {r : Registry} {suite : Suite} {suite? : Option Suite}
  {pair : KeyPair} {text : String} {e : Envelope}

/-! ## The answer -/

/-- Open a text with the sealer that is registered for its suite. -/
def Registry.opens (r : Registry) (pair : KeyPair) (text : String) :
    Except EnvelopeError String := do
  let e ← Envelope.parse text
  let sealer ← r.get e.suite
  sealer.decrypt pair e

namespace Registry

theorem opens_of_malformed {cause : EnvelopeError} (h : Envelope.parse text = .error cause) :
    r.opens pair text = .error cause := by
  rw [opens, h]
  rfl

theorem opens_of_parse (h : Envelope.parse text = .ok e) :
    r.opens pair text = r.get e.suite >>= fun sealer => sealer.decrypt pair e := by
  rw [opens, h, except_ok_bind]

theorem opens_of_unregistered (h : Envelope.parse text = .ok e)
    (hsealer : r.sealer? e.suite = none) :
    r.opens pair text = .error (.unsupported e.suite) := by
  rw [opens_of_parse h, get, hsealer]
  rfl

theorem opens_of_registered {sealer : Sealer} (h : Envelope.parse text = .ok e)
    (hsealer : r.sealer? e.suite = some sealer) : r.opens pair text = sealer.decrypt pair e := by
  rw [opens_of_parse h, get_eq_ok_iff.2 hsealer, except_ok_bind]

end Registry

/-- Behind the parser, a sealer of the suite has nothing to say about the form of an envelope. -/
theorem Sealer.meets_decrypt_of_parse (h : Envelope.parse text = .ok e) (pair : KeyPair) :
    Meets ((KeyKind.requiredBy e.suite).flatMap (keyObstacles e.suite pair) ++
      cipherObstacles e.suite pair e) ((builtIn e.suite).decrypt pair e) := by
  have hcheck : check e.suite e = .ok () :=
    check_eq_ok_iff.2 ⟨rfl, (Envelope.parse_eq_ok_iff_denotes.1 h).length⟩
  have hform := (meets_check e.suite e).exists_ok_iff.1 ⟨(), hcheck⟩
  intro error
  rw [meets_decrypt e.suite pair e, obstacles, preliminaries, List.append_assoc,
    stops_append_of_clear hform]

/-! ## Bindings -/

/-- Bind anew to the suite of an envelope, and open it. -/
def Binding.reopen (r : Registry) (pair : KeyPair) (e : Envelope) :
    Action Binding EnvelopeError String := do
  setSuite r e.suite
  fun b => (b.decrypt pair e, b)

namespace Binding

theorem decryptWire_answer (hr : r.Filed) (pair : KeyPair) (text : String) (b : Binding) :
    (decryptWire r pair text b).1 = r.opens pair text := by
  cases hparse : Envelope.parse text with
  | error cause =>
    rw [Registry.opens_of_malformed hparse]
    simp only [decryptWire, hparse]
  | ok e =>
    rw [Registry.opens_of_parse hparse]
    simp only [decryptWire, hparse, Registry.forEnvelope_of_peek hr (Envelope.peek_of_parse hparse)]
    cases r.get e.suite with
    | error cause => rfl
    | ok sealer => rfl

theorem reopen_answer (r : Registry) (pair : KeyPair) (e : Envelope) (b : Binding) :
    (reopen r pair e b).1 = r.get e.suite >>= fun sealer => sealer.decrypt pair e := by
  rw [reopen, Action.bind_answer]
  simp only [setSuite]
  cases r.get e.suite with
  | error cause => rfl
  | ok sealer => rfl

end Binding

/-! ## Services -/

namespace Service

/-- What is kept for a suite is bound to the sealer that is registered for it. -/
def Settled (s : Service) : Prop :=
  ∀ suite kept, s.kept? suite = some kept → s.registry.sealer? suite = some kept.binding.sealer

namespace Settled

theorem sealer?_of_found (h : s.Settled) {kept : Kept} (hfound : s.found? suite = some kept) :
    s.registry.sealer? suite = some kept.binding.sealer := by
  cases hkept : s.kept? suite with
  | some other =>
    cases (found?_of_kept hkept).symm.trans hfound
    exact h suite kept hkept
  | none =>
    rw [found?_of_not_kept hkept] at hfound
    obtain ⟨sealer, hsealer, rfl⟩ := Option.map_eq_some_iff.1 hfound
    exact hsealer

theorem looks (h : s.Settled) (hlooks : Looks suite? s s') : s'.Settled := by
  intro suite kept hkept
  rw [hlooks.registry]
  rw [hlooks.kept?] at hkept
  split at hkept
  · exact h.sealer?_of_found hkept
  · exact h suite kept hkept

/-- A settled service opens an envelope with the sealer that is registered now. -/
theorem decryptWith_answer (h : s.Settled) (pair : KeyPair) (e : Envelope) :
    (decryptWith pair e s).1 = s.registry.get e.suite >>= fun sealer => sealer.decrypt pair e := by
  cases hfound : s.found? e.suite with
  | some kept =>
    rw [decryptWith_of_found hfound, Registry.get_eq_ok_iff.2 (h.sealer?_of_found hfound),
      except_ok_bind]
  | none =>
    have hsealer := Option.map_eq_none_iff.1 (Option.or_eq_none_iff.1 hfound).2
    rw [decryptWith_of_not_found hfound, Registry.get, hsealer]
    rfl

/-- The supply is asked before the registry. -/
theorem decrypt_answer (h : s.Settled) (hparse : Envelope.parse text = .ok e) :
    (decrypt text s).1 = (pairFor e.suite s).1 >>= fun pair => s.registry.opens pair text := by
  have hsame := sameBindings_pairFor e.suite s
  rw [decrypt_of_parse hparse, decryptEnvelope, Action.bind_answer]
  refine bind_congr fun pair => ?_
  rw [(h.looks hsame.looks).decryptWith_answer, hsame.registry, Registry.opens_of_parse hparse]

end Settled

end Service

/-! ## Sessions -/

theorem Operation.settled_run (op : Operation α) (hop : ∀ suite, ¬op.Replaces suite) {c : Codec}
    (h : c.service.Settled) : (op.run c).2.service.Settled := by
  intro suite kept hkept
  by_cases hdrops : op.Drops suite
  · rw [kept?_run_of_drops hdrops] at hkept
    cases hkept
  · rw [sealer?_run_of_other hdrops (hop suite)]
    rw [kept?_run op hdrops] at hkept
    split at hkept
    · exact h.sealer?_of_found hkept
    · exact h suite kept hkept

namespace Session

theorem settled_run {session : Session} (hbehind : ∀ suite, ¬Replaces session suite) {c : Codec}
    (h : c.service.Settled) : (session.run c).service.Settled := by
  induction session generalizing c with
  | nil => exact h
  | cons step session ih =>
    refine ih (fun suite ⟨other, hother, hreplaces⟩ => ?_) (step.2.settled_run (fun suite hop => ?_) h)
    · exact hbehind suite ⟨other, List.mem_cons_of_mem _ hother, hreplaces⟩
    · exact hbehind suite ⟨step, List.mem_cons_self, hop⟩

/-- **The ways to open a text agree.** Let nothing be bound at first, let the registry hold any
sealers, and let none be put into it past the service from then on.

- The service with a supply that has these keys, the service with keys of the caller, a binding that
  reads the text itself, and a binding that is moved to the suite of the envelope give one answer,
  whatever the binding was to.
- A text that does not parse is refused for that. A suite without a sealer is reported next, whatever
  the keys. Then the sealer that is registered has its say.
- A built-in sealer reports what is wrong with the keys, then a failed authentication, then a failure
  of the cipher. -/
theorem ways_to_open_agree (c : Codec) (hnew : c.IsNew) (session : Session)
    (hbehind : ∀ suite, ¬Replaces session suite) (text : String) (pair : KeyPair) (b : Binding) :
    let s := (session.run c).service
    let answer := s.registry.opens pair text
    ((∀ e, Envelope.parse text = .ok e → (Service.pairFor e.suite s).1 = .ok pair) →
      (Service.decrypt text s).1 = answer) ∧
    (Envelope.parse text >>= fun e => (Service.decryptWith pair e s).1) = answer ∧
    (Binding.decryptWire s.registry pair text b).1 = answer ∧
    (Envelope.parse text >>= fun e => (Binding.reopen s.registry pair e b).1) = answer ∧
    (∀ cause, Envelope.parse text = .error cause → answer = .error cause) ∧
    ∀ e, Envelope.parse text = .ok e →
      (s.registry.sealer? e.suite = none → answer = .error (.unsupported e.suite)) ∧
      (∀ sealer, s.registry.sealer? e.suite = some sealer → answer = sealer.decrypt pair e) ∧
      (s.registry.sealer? e.suite = some (.builtIn e.suite) →
        Meets ((KeyKind.requiredBy e.suite).flatMap (Sealer.keyObstacles e.suite pair) ++
          Sealer.cipherObstacles e.suite pair e) answer) := by
  intro s answer
  have hs : s.Settled := settled_run hbehind fun suite kept hkept => by
    rw [hnew.kept?] at hkept
    cases hkept
  obtain ⟨sealers, hregistry⟩ := hnew.registry
  have hfiled : s.registry.Filed := filed_run (hregistry ▸ Registry.filed_ofSealers sealers) session
  refine ⟨fun hpair => ?_, ?_, Binding.decryptWire_answer hfiled pair text b, ?_,
    fun cause => Registry.opens_of_malformed, fun e hparse => ⟨Registry.opens_of_unregistered hparse,
      fun sealer => Registry.opens_of_registered hparse, fun hsealer => ?_⟩⟩
  · cases hparse : Envelope.parse text with
    | error cause =>
      rw [Service.decrypt, Action.bind_answer, Action.ofExcept_apply, hparse]
      exact (Registry.opens_of_malformed hparse).symm
    | ok e => rw [hs.decrypt_answer hparse, hpair e hparse, except_ok_bind]
  · exact bind_congr fun e => hs.decryptWith_answer pair e
  · exact bind_congr fun e => Binding.reopen_answer s.registry pair e b
  · have hanswer : answer = (Sealer.builtIn e.suite).decrypt pair e :=
      Registry.opens_of_registered hparse hsealer
    rw [hanswer]
    exact Sealer.meets_decrypt_of_parse hparse pair

/-- A foreign sealer that was registered with the service in the place of a built-in one answers
alike in all ways. So does the built-in sealer of the other suite, which gets no keys. -/
theorem replaced_sealer_answers_alike :
    (start [.gm, .modern] (.always .modern) (.fixed fun _ => .ok {}) ⟨⟨fun _ => 0, 0⟩, []⟩).IsNew ∧
      (∀ suite, ¬Replaces [⟨_, .encrypt "x"⟩, ⟨_, .register (.plain "a" .modern "a")⟩] suite) ∧
      (Service.decrypt "_mask|MODERN|AAAAAAAAAAAAAAAA|aA|AA|"
        (run [⟨_, .encrypt "x"⟩, ⟨_, .register (.plain "a" .modern "a")⟩]
          (start [.gm, .modern] (.always .modern) (.fixed fun _ => .ok {})
            ⟨⟨fun _ => 0, 0⟩, []⟩)).service).1 = .ok "a:68" ∧
      (Binding.decryptWire
        (run [⟨_, .encrypt "x"⟩, ⟨_, .register (.plain "a" .modern "a")⟩]
          (start [.gm, .modern] (.always .modern) (.fixed fun _ => .ok {})
            ⟨⟨fun _ => 0, 0⟩, []⟩)).service.registry
        {} "_mask|GM|AAAAAAAAAAAAAAAAAAAAAA|||" ⟨.plain "b" .modern "b"⟩).1 =
        .error (.missingKey .gm .gmEncryption) := by
  have hnew : (start [.gm, .modern] (.always .modern) (.fixed fun _ => .ok {})
      ⟨⟨fun _ => 0, 0⟩, []⟩).IsNew := ⟨⟨[.gm, .modern], rfl⟩, fun _ => rfl⟩
  have hbehind : ∀ suite,
      ¬Replaces [⟨_, .encrypt "x"⟩, ⟨_, .register (.plain "a" .modern "a")⟩] suite := by
    simp [Replaces, Operation.Replaces]
  have hmodern : Envelope.parse "_mask|MODERN|AAAAAAAAAAAAAAAA|aA|AA|" =
      .ok ⟨.modern, List.replicate 12 0, [104], [0]⟩ := by decide +kernel
  have hgm : Envelope.parse "_mask|GM|AAAAAAAAAAAAAAAAAAAAAA|||" =
      .ok ⟨.gm, List.replicate 16 0, [], []⟩ := by decide +kernel
  obtain ⟨hdecrypt, -, -, -, -, hplain⟩ := ways_to_open_agree _ hnew _ hbehind
    "_mask|MODERN|AAAAAAAAAAAAAAAA|aA|AA|" {} ⟨.gm⟩
  obtain ⟨-, -, hwire, -, -, hbuiltIn⟩ := ways_to_open_agree _ hnew _ hbehind
    "_mask|GM|AAAAAAAAAAAAAAAAAAAAAA|||" {} ⟨.plain "b" .modern "b"⟩
  refine ⟨hnew, hbehind, ?_, ?_⟩
  · rw [hdecrypt fun _ _ => rfl, (hplain _ hmodern).2.1 (.plain "a" .modern "a") rfl]
    decide +kernel
  · rw [hwire, (hbuiltIn _ hgm).2.1 (.builtIn .gm) rfl]
    rfl

end Session

end FieldSeal

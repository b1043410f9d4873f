import FieldSeal.Binding
import FieldSeal.Proofs.Envelope.Readers
import FieldSeal.Sealer.Plain

/-!
# A binding keeps its sealer until it is bound anew

**Theorem (`binding_has_sealer_of_last_rebinding`).** One binding is used in any order while sealers
are registered with the registry that it shares. At every moment it has the sealer that was registered
for its suite when it was last bound anew, whatever was registered since.

**Uses.** Whether a use binds anew depends on the registry alone (`Use.target?`): a suite is asked for,
or a text that parses names it, and a sealer is registered for it. The keys and what the sealer makes
of the text come later and have no part in it (`Use.binding_run`).

**Runs.** By induction on the uses, the first of them at the end: either none binds anew and the binding
is the one at the start, or there is a last one that does (`keeps_or_lastRebinding`).
-/

namespace FieldSeal

namespace Registry

variable {r : Registry} {suite : Suite}

theorem get_eq_error_of_none (h : r.sealer? suite = none) :
    r.get suite = .error (.unsupported suite) := by
  rw [get, h]

end Registry

namespace Binding

theorem sealer?_of_new {r : Registry} {suite : Suite} {b : Binding} (h : new r suite = .ok b) :
    r.sealer? suite = some b.sealer := by
  unfold new at h
  cases hget : r.get suite with
  | error cause =>
    rw [hget] at h
    cases h
  | ok sealer =>
    rw [hget] at h
    cases h
    exact Registry.get_eq_ok_iff.1 hget

/-- A binding with the registry that it shares. -/
structure Desk where
  registry : Registry
  binding : Binding
  host : Host

/-- One use of a binding, or one registration; the index is the type of the answer. -/
inductive Use : Type → Type where
  | setSuite (suite : Suite) : Use (Except EnvelopeError Unit)
  | decryptWire (keys : KeyPair) (text : String) : Use (Except EnvelopeError String)
  | encrypt (keys : KeyPair) (text : String) : Use (Except EnvelopeError Envelope)
  | decrypt (keys : KeyPair) (e : Envelope) : Use (Except EnvelopeError String)
  | register (sealer : Sealer) : Use (Option Sealer)

namespace Use

variable {α : Type} {desk : Desk}

/-- Perform an action on the binding. -/
def onBinding (a : Registry → Action Binding EnvelopeError α) (desk : Desk) :
    Except EnvelopeError α × Desk :=
  match a desk.registry desk.binding with
  | (result, binding) => (result, { desk with binding })

def run : {α : Type} → Use α → Desk → α × Desk
  | _, setSuite suite => onBinding fun r => Binding.setSuite r suite
  | _, decryptWire keys text => onBinding fun r => Binding.decryptWire r keys text
  | _, encrypt keys text => fun desk =>
    match desk.binding.encrypt keys text desk.host.entropy with
    | (result, entropy) => (result, { desk with host := { desk.host with entropy } })
  | _, decrypt keys e => fun desk => (desk.binding.decrypt keys e, desk)
  | _, register sealer => fun desk =>
    match Registry.put sealer (desk.registry, desk.host) with
    | (displaced, registry, host) => (displaced, { desk with registry, host })

/-- The sealer to which the use binds anew, if it does. -/
def target? : {α : Type} → Use α → Registry → Option Sealer
  | _, setSuite suite, r => r.sealer? suite
  | _, decryptWire _ text, r => (Envelope.parse text).toOption.bind fun e => r.sealer? e.suite
  | _, _, _ => none

/-! ## One use -/

theorem run_setSuite_of_some {suite : Suite} {sealer : Sealer}
    (h : desk.registry.sealer? suite = some sealer) :
    (setSuite suite).run desk = (.ok (), { desk with binding := ⟨sealer⟩ }) := by
  rw [run, onBinding, Binding.setSuite, Registry.get_eq_ok_iff.2 h]

theorem run_setSuite_of_none {suite : Suite} (h : desk.registry.sealer? suite = none) :
    (setSuite suite).run desk = (.error (.unsupported suite), desk) := by
  rw [run, onBinding, Binding.setSuite, Registry.get_eq_error_of_none h]

section Wire

variable {text : String} {e : Envelope}

theorem run_decryptWire_of_error {cause : EnvelopeError} (h : Envelope.parse text = .error cause)
    (keys : KeyPair) : (decryptWire keys text).run desk = (.error cause, desk) := by
  rw [run, onBinding, Binding.decryptWire, h]

theorem run_decryptWire_of_none (hfiled : desk.registry.Filed) (h : Envelope.parse text = .ok e)
    (hnone : desk.registry.sealer? e.suite = none) (keys : KeyPair) :
    (decryptWire keys text).run desk = (.error (.unsupported e.suite), desk) := by
  have hsealer : desk.registry.forEnvelope text = .error (.unsupported e.suite) := by
    rw [Registry.forEnvelope_of_peek hfiled (Envelope.peek_of_parse h),
      Registry.get_eq_error_of_none hnone]
  rw [run, onBinding, Binding.decryptWire, h]
  dsimp only
  rw [hsealer]

theorem run_decryptWire_of_some (hfiled : desk.registry.Filed) (h : Envelope.parse text = .ok e)
    {sealer : Sealer} (hsome : desk.registry.sealer? e.suite = some sealer) (keys : KeyPair) :
    (decryptWire keys text).run desk =
      (sealer.decrypt keys e, { desk with binding := ⟨sealer⟩ }) := by
  have hsealer : desk.registry.forEnvelope text = .ok sealer := by
    rw [Registry.forEnvelope_of_peek hfiled (Envelope.peek_of_parse h),
      Registry.get_eq_ok_iff.2 hsome]
  rw [run, onBinding, Binding.decryptWire, h]
  dsimp only
  rw [hsealer]

end Wire

/-- A use leaves the binding alone or binds it to a registered sealer. -/
theorem binding_run (use : Use α) (hfiled : desk.registry.Filed) :
    (use.run desk).2.binding =
      match use.target? desk.registry with
      | some sealer => ⟨sealer⟩
      | none => desk.binding := by
  cases use with
  | setSuite suite =>
    cases h : desk.registry.sealer? suite with
    | none => rw [run_setSuite_of_none h, target?, h]
    | some sealer => rw [run_setSuite_of_some h, target?, h]
  | decryptWire keys text =>
    rw [target?]
    cases hparse : Envelope.parse text with
    | error cause =>
      rw [run_decryptWire_of_error hparse]
      rfl
    | ok e =>
      show _ = match desk.registry.sealer? e.suite with
        | some sealer => _
        | none => _
      cases h : desk.registry.sealer? e.suite with
      | none => rw [run_decryptWire_of_none hfiled hparse h]
      | some sealer => rw [run_decryptWire_of_some hfiled hparse h]
  | encrypt keys text => rfl
  | decrypt keys e => rfl
  | register sealer => rfl

/-- What a use binds to was filed under its suite. -/
theorem sealer?_of_target? {use : Use α} {r : Registry} {sealer : Sealer} (hfiled : r.Filed)
    (h : use.target? r = some sealer) : r.sealer? sealer.suite = some sealer := by
  have hsuite : ∃ suite, r.sealer? suite = some sealer := by
    cases use with
    | setSuite suite => exact ⟨suite, h⟩
    | decryptWire keys text =>
      obtain ⟨e, -, he⟩ := Option.bind_eq_some_iff.1 h
      exact ⟨e.suite, he⟩
    | encrypt keys text => cases h
    | decrypt keys e => cases h
    | register sealer => cases h
  obtain ⟨suite, hsome⟩ := hsuite
  rwa [hfiled suite sealer hsome]

theorem filed_run (use : Use α) (hfiled : desk.registry.Filed) :
    (use.run desk).2.registry.Filed := by
  cases use with
  | register sealer => exact hfiled.register sealer
  | _ => exact hfiled

end Use

/-! ## Runs -/

/-- Uses in the order in which they are performed. -/
abbrev Run := List ((α : Type) × Use α)

namespace Run

variable {desk : Desk} {uses before after : Run} {step : (α : Type) × Use α}

/-- The desk after a run. -/
def result : Run → Desk → Desk
  | [], desk => desk
  | ⟨_, use⟩ :: uses, desk => result uses (use.run desk).2

/-- No use of the run binds anew. -/
def Keeps : Run → Desk → Prop
  | [], _ => True
  | ⟨_, use⟩ :: uses, desk => use.target? desk.registry = none ∧ Keeps uses (use.run desk).2

/-- Of all uses of the run, `step` is the last to bind anew. -/
structure LastRebinding (desk : Desk) (uses before : Run) (step : (α : Type) × Use α)
    (after : Run) : Prop where
  uses_eq : uses = before ++ step :: after
  rebinds : (step.2.target? (before.result desk).registry).isSome
  keeps : Keeps after (step.2.run (before.result desk)).2

theorem result_append (uses uses' : Run) (desk : Desk) :
    result (uses ++ uses') desk = result uses' (result uses desk) := by
  induction uses generalizing desk with
  | nil => rfl
  | cons step uses ih => exact ih _

theorem filed_result (hfiled : desk.registry.Filed) (uses : Run) :
    (uses.result desk).registry.Filed := by
  induction uses generalizing desk with
  | nil => exact hfiled
  | cons step uses ih => exact ih (step.2.filed_run hfiled)

/-- Without binding anew, the binding stays what it is, also on the way. -/
theorem Keeps.binding_eq (h : Keeps uses desk) (hfiled : desk.registry.Filed) {early late : Run}
    (huses : uses = early ++ late) : (early.result desk).binding = desk.binding := by
  induction early generalizing desk uses with
  | nil => rfl
  | cons step early ih =>
    subst huses
    obtain ⟨hnone, hkeeps⟩ := h
    have hstep := step.2.binding_run hfiled
    rw [hnone] at hstep
    exact (ih hkeeps (step.2.filed_run hfiled) rfl).trans hstep

/-- The last use that binds anew, if there is any. -/
theorem keeps_or_lastRebinding (uses : Run) (desk : Desk) :
    Keeps uses desk ∨ ∃ before step after, LastRebinding desk uses before step after := by
  induction uses generalizing desk with
  | nil => exact .inl trivial
  | cons step uses ih =>
    rcases ih (step.2.run desk).2 with hkeeps | ⟨before, last, after, hlast⟩
    · cases htarget : step.2.target? desk.registry with
      | none => exact .inl ⟨htarget, hkeeps⟩
      | some sealer => exact .inr ⟨[], step, uses, rfl, Option.isSome_of_eq_some htarget, hkeeps⟩
    · refine .inr ⟨step :: before, last, after, ?_, hlast.rebinds, hlast.keeps⟩
      rw [hlast.uses_eq, List.cons_append]

/-- Since it was last bound anew, the binding has the sealer that was registered then. -/
theorem LastRebinding.exists_sealer (h : LastRebinding desk uses before step after)
    (hfiled : desk.registry.Filed) :
    ∃ sealer, (before.result desk).registry.sealer? sealer.suite = some sealer ∧
      ∀ early late, after = early ++ late →
        (result (before ++ step :: early) desk).binding = ⟨sealer⟩ := by
  obtain ⟨sealer, htarget⟩ := Option.isSome_iff_exists.1 h.rebinds
  have hbefore := filed_result hfiled before
  have hstep := step.2.binding_run hbefore
  rw [htarget] at hstep
  refine ⟨sealer, Use.sealer?_of_target? hbefore htarget, fun early late hafter => ?_⟩
  rw [result_append]
  exact (h.keeps.binding_eq (step.2.filed_run hbefore) hafter).trans hstep

end Run

/-- **A binding has the sealer of its last rebinding.** Let a registry hold any sealers, and let a
binding to one of its suites be used in any way, while sealers are registered.

- Either no use bound anew, and the binding is the first one; or there is a last use that did, and the
  binding has kept the sealer that the registry had for its suite at that moment.
- Binding to a suite fails exactly if no sealer is registered for it, and then changes nothing.
- A text that does not parse, or that names a suite without a sealer, is refused, and the binding
  stays. For every other text it moves to the registered sealer of the named suite, and the answer is
  what this sealer makes of the text, be it a text or an error.
- Sealing, opening an envelope and registering never change the binding. -/
theorem binding_has_sealer_of_last_rebinding (sealers : List Sealer) (first : Suite) {b : Binding}
    (h : Binding.new (.ofSealers sealers) first = .ok b) (host : Host) (uses : Run) :
    let start : Desk := ⟨.ofSealers sealers, b, host⟩
    let desk := uses.result start
    ((uses.Keeps start ∧ start.registry.sealer? b.suite = some b.sealer ∧
        ∀ early late, uses = early ++ late → (early.result start).binding = b) ∨
      ∃ before step after, Run.LastRebinding start uses before step after ∧
        (before.result start).registry.sealer? desk.binding.suite = some desk.binding.sealer ∧
        ∀ early late, after = early ++ late →
          (Run.result (before ++ step :: early) start).binding = desk.binding) ∧
    (∀ suite,
      (desk.registry.sealer? suite = none →
        (Use.setSuite suite).run desk = (.error (.unsupported suite), desk)) ∧
      ∀ sealer, desk.registry.sealer? suite = some sealer → sealer.suite = suite ∧
        (Use.setSuite suite).run desk = (.ok (), { desk with binding := ⟨sealer⟩ })) ∧
    (∀ keys text,
      (∀ cause, Envelope.parse text = .error cause →
        (Use.decryptWire keys text).run desk = (.error cause, desk)) ∧
      ∀ e, Envelope.parse text = .ok e →
        (desk.registry.sealer? e.suite = none →
          (Use.decryptWire keys text).run desk = (.error (.unsupported e.suite), desk)) ∧
        ∀ sealer, desk.registry.sealer? e.suite = some sealer → sealer.suite = e.suite ∧
          (Use.decryptWire keys text).run desk =
            (sealer.decrypt keys e, { desk with binding := ⟨sealer⟩ })) ∧
    (∀ keys text, ((Use.encrypt keys text).run desk).2.binding = desk.binding) ∧
    (∀ keys e, ((Use.decrypt keys e).run desk).2 = desk) ∧
    ∀ sealer, ((Use.register sealer).run desk).2.binding = desk.binding ∧
      ((Use.register sealer).run desk).2.registry.sealer? sealer.suite = some sealer := by
  intro start desk
  have hstart : start.registry.Filed := Registry.filed_ofSealers sealers
  have hfiled : desk.registry.Filed := Run.filed_result hstart uses
  refine ⟨?_, fun suite => ⟨Use.run_setSuite_of_none, fun sealer hsome => ⟨hfiled _ _ hsome, ?_⟩⟩,
    fun keys text => ⟨fun cause hparse => Use.run_decryptWire_of_error hparse keys,
      fun e hparse => ⟨fun hnone => Use.run_decryptWire_of_none hfiled hparse hnone keys,
        fun sealer hsome => ⟨hfiled _ _ hsome, ?_⟩⟩⟩,
    fun keys text => rfl, fun keys e => rfl, fun sealer => ⟨rfl, Registry.sealer?_register_self _ _⟩⟩
  · rcases uses.keeps_or_lastRebinding start with hkeeps | ⟨before, step, after, hlast⟩
    · have hnew := sealer?_of_new h
      refine .inl ⟨hkeeps, ?_, fun early late => hkeeps.binding_eq hstart⟩
      show (Registry.ofSealers sealers).sealer? b.sealer.suite = some b.sealer
      rwa [hstart _ _ hnew]
    · obtain ⟨sealer, hsealer, hsince⟩ := hlast.exists_sealer hstart
      have hbinding : desk.binding = ⟨sealer⟩ := by
        rw [← hsince after [] (List.append_nil _).symm, ← hlast.uses_eq]
      refine .inr ⟨before, step, after, hlast, ?_, fun early late hafter => ?_⟩
      · rw [hbinding]
        exact hsealer
      · rw [hbinding, hsince early late hafter]
  · exact Use.run_setSuite_of_some hsome
  · exact Use.run_decryptWire_of_some hfiled hparse hsome keys

/-- A text that cannot be opened for want of a key has moved the binding, which then outlives the
registration of another sealer. -/
theorem failed_opening_moves_binding :
    Binding.new (.ofSealers [.gm, .modern]) .gm = .ok ⟨.gm⟩ ∧
    let start : Desk := ⟨.ofSealers [.gm, .modern], ⟨.gm⟩, ⟨.cycle [], []⟩⟩
    let opening : Use _ := .decryptWire {} "_mask|MODERN|AAAAAAAAAAAAAAAA|||"
    let registering : Use _ := .register (.plain "b" .modern "b")
    (opening.run start).1 = .error (.missingKey .modern .modernEncryption) ∧
      (opening.run start).2.binding = ⟨.modern⟩ ∧
      (Run.result [⟨_, opening⟩, ⟨_, registering⟩] start).binding = ⟨.modern⟩ ∧
      (Run.result [⟨_, opening⟩, ⟨_, registering⟩] start).registry.sealer? .modern =
        some (.plain "b" .modern "b") := by
  have hparse : Envelope.parse "_mask|MODERN|AAAAAAAAAAAAAAAA|||" =
      .ok ⟨.modern, List.replicate 12 0, [], []⟩ := by decide +kernel
  obtain ⟨-, -, hopening, -⟩ := binding_has_sealer_of_last_rebinding [.gm, .modern] .gm rfl
    ⟨.cycle [], []⟩ []
  obtain ⟨-, hsome⟩ := (hopening {} "_mask|MODERN|AAAAAAAAAAAAAAAA|||").2 _ hparse
  obtain ⟨-, hrun⟩ := hsome .modern rfl
  have hmoved := congrArg (fun answer => answer.2.binding) hrun
  exact ⟨rfl, congrArg Prod.fst hrun, hmoved, hmoved, rfl⟩

end Binding

end FieldSeal

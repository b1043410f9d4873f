import FieldSeal.Proofs.Registry
import FieldSeal.Proofs.Service.Binding
import FieldSeal.Proofs.Session.Spending
import FieldSeal.Sealer.Plain

/-!
# Bindings follow registrations

**Theorem (`bindings_follow_registrations`).** A sealer can be registered with the service, which
drops the binding of its suite, or with the registry behind its back, which does not. Whatever the
order of operations, the binding that is kept for a suite goes back to the first lookup that found one
since it was last dropped (`FirstFind`), and has the sealer that was registered then.

**Operations.** Apart from registering, an operation looks up the binding of one suite or of none
(`Operation.looks_run`), so a binding that is kept stays until it is dropped.

**Sessions.** By induction on the session, its last operation at the end: either no lookup has found
anything since the binding was last dropped (`Unbound`) and none is kept, or there is a first find
(`unbound_or_firstFind`).
-/

namespace FieldSeal

/-! ## Operations -/

namespace Operation

variable {α : Type} {op : Operation α} {c : Codec} {suite : Suite} {kept : Kept}

/-- The suite whose binding the operation looks up, if any. -/
def lookup? : {α : Type} → Operation α → Codec → Option Suite
  | _, bindingFor suite, _ => some suite
  | _, decryptWith _ e, _ => some e.suite
  | _, decryptEnvelope e, c => c.service.openingSuite? e
  | _, decrypt wire, c | _, reveal _ wire, c => c.service.readingSuite? wire
  | _, op, c => if (op.text? c).isSome then some c.service.policy.ask.1 else none

/-- The operation looks up a suite that has a sealer. -/
def Finds (op : Operation α) (c : Codec) (suite : Suite) : Prop :=
  op.lookup? c = some suite ∧ (c.service.registry.sealer? suite).isSome

/-- The sealer that the operation registers, in either way. -/
def registered? : {α : Type} → Operation α → Option Sealer
  | _, register sealer | _, put sealer => some sealer
  | _, _ => none

/-- The operation registers a sealer of the suite with the service. -/
def Drops : {α : Type} → Operation α → Suite → Prop
  | _, register sealer, suite => sealer.suite = suite
  | _, _, _ => False

/-- The operation registers a sealer of the suite past the service. -/
def Replaces : {α : Type} → Operation α → Suite → Prop
  | _, put sealer, suite => sealer.suite = suite
  | _, _, _ => False

theorem looks_protect (rule : MaskRule) (value : String) (c : Codec) :
    Service.Looks ((protect rule value).lookup? c) c.service
      (Codec.protect rule value c).2.service := by
  by_cases hvalue : value.isEmpty
  · simp only [lookup?, text?, if_pos hvalue]
    rw [Codec.protect_of_isEmpty hvalue]
    exact Service.SameBindings.looks ⟨rfl, rfl, rfl⟩
  · rw [protect_apply hvalue]
    simp only [lookup?, text?, if_neg hvalue]
    rcases Masker.mask rule value c.masker with ⟨result, masker⟩
    cases result with
    | error cause => exact Service.SameBindings.looks ⟨rfl, rfl, rfl⟩
    | ok shown =>
      dsimp only
      rw [Codec.onService, Action.mapError_apply, Action.on_apply, Service.encryptWithMask_apply]
      exact Service.looks_encrypt value c.service

theorem looks_reveal (rule : MaskRule) (wire : String) (c : Codec) :
    Service.Looks (c.service.readingSuite? wire) c.service
      (Codec.reveal rule wire c).2.service := by
  by_cases henvelope : Envelope.isEnvelope wire
  · rw [Codec.reveal_of_isEnvelope henvelope, Codec.onService, Action.mapError_apply,
      Action.on_apply]
    exact Service.looks_decrypt wire c.service
  · rw [Service.readingSuite?_of_not_isEnvelope henvelope,
      Codec.service_reveal_of_not_isEnvelope henvelope]
    exact Service.SameBindings.looks ⟨rfl, rfl, rfl⟩

/-- An operation that registers nothing looks up one suite or none. -/
theorem looks_run (op : Operation α) (h : op.registered? = none) (c : Codec) :
    Service.Looks (op.lookup? c) c.service (op.run c).2.service := by
  have hsame : ∀ c' : Codec, Service.SameBindings c.service c'.service →
      Service.Looks none c.service c'.service := fun _ => Service.SameBindings.looks
  cases op with
  | encrypt text => exact Service.looks_encrypt text c.service
  | encryptToWire text =>
    show Service.Looks _ _ ((Envelope.toWire <$> Service.encrypt text) c.service).2
    rw [Action.map_apply]
    exact Service.looks_encrypt text c.service
  | encryptWithMask text shown =>
    show Service.Looks _ _ (Service.encryptWithMask text shown c.service).2
    rw [Service.encryptWithMask_apply]
    exact Service.looks_encrypt text c.service
  | decrypt wire => exact Service.looks_decrypt wire c.service
  | decryptEnvelope e => exact Service.looks_decryptEnvelope e c.service
  | decryptWith keys e => exact Service.looks_decryptWith keys e c.service
  | protect rule value => exact looks_protect rule value c
  | reveal rule wire => exact looks_reveal rule wire c
  | bindingFor suite => exact Service.looks_bindingFor suite c.service
  | register sealer => cases h
  | put sealer => cases h
  | _ => exact hsame _ ⟨rfl, rfl, rfl⟩

theorem registry_run (op : Operation α) (c : Codec) :
    (op.run c).2.service.registry =
      match op.registered? with
      | some sealer => c.service.registry.register sealer
      | none => c.service.registry := by
  cases op with
  | register sealer => rfl
  | put sealer => rfl
  | _ => exact (looks_run _ rfl c).registry

/-- What is kept stays as it is unless it is dropped, and what a lookup finds is kept. -/
theorem kept?_run (op : Operation α) (h : ¬op.Drops suite) (c : Codec) :
    (op.run c).2.service.kept? suite =
      if op.lookup? c = some suite then c.service.found? suite else c.service.kept? suite := by
  cases op with
  | register sealer => exact if_neg (Ne.symm h)
  | put sealer => rfl
  | _ => exact (looks_run _ rfl c).kept? suite

theorem kept?_run_of_drops (h : op.Drops suite) (c : Codec) :
    (op.run c).2.service.kept? suite = none := by
  cases op with
  | register sealer => exact if_pos h.symm
  | _ => cases h

theorem kept?_run_of_kept (h : ¬op.Drops suite) (hkept : c.service.kept? suite = some kept) :
    (op.run c).2.service.kept? suite = some kept := by
  rw [kept?_run op h, Service.found?_of_kept hkept, hkept, ite_self]

/-- What is looked up is not dropped at the same time. -/
theorem not_drops_of_lookup? (h : op.lookup? c = some suite) : ¬op.Drops suite := by
  cases op with
  | register sealer => cases h
  | _ => exact id

theorem not_replaces_of_lookup? (h : op.lookup? c = some suite) : ¬op.Replaces suite := by
  cases op with
  | put sealer => cases h
  | _ => exact id

theorem kept?_run_of_found (hlookup : op.lookup? c = some suite)
    (hfound : c.service.found? suite = some kept) :
    (op.run c).2.service.kept? suite = some kept := by
  rw [kept?_run op (not_drops_of_lookup? hlookup), if_pos hlookup, hfound]

/-- A lookup that finds nothing keeps nothing. -/
theorem kept?_run_of_not_found (hlookup : op.lookup? c = some suite)
    (hfound : c.service.found? suite = none) :
    (op.run c).2.service.kept? = c.service.kept? := by
  have hnone : op.registered? = none := by
    cases op with
    | register sealer => cases hlookup
    | put sealer => cases hlookup
    | _ => rfl
  funext other
  rw [(looks_run op hnone c).kept? other, hlookup]
  split
  · next hother =>
    cases hother
    rw [hfound, eq_comm]
    exact (Option.or_eq_none_iff.1 hfound).1
  · rfl

theorem sealer?_run_of_other (hdrops : ¬op.Drops suite) (hreplaces : ¬op.Replaces suite)
    (c : Codec) :
    (op.run c).2.service.registry.sealer? suite = c.service.registry.sealer? suite := by
  rw [registry_run]
  cases op with
  | register sealer => exact Registry.sealer?_register_of_ne _ (Ne.symm hdrops)
  | put sealer => exact Registry.sealer?_register_of_ne _ (Ne.symm hreplaces)
  | _ => rfl

/-- A registry never loses the sealer of a suite without getting another. -/
theorem isSome_sealer?_run (op : Operation α) (h : (c.service.registry.sealer? suite).isSome) :
    ((op.run c).2.service.registry.sealer? suite).isSome := by
  rw [registry_run]
  cases op.registered? with
  | none => exact h
  | some sealer =>
    by_cases hsuite : suite = sealer.suite
    · simp [hsuite]
    · simpa [Registry.sealer?_register_of_ne _ hsuite] using h

theorem filed_run (op : Operation α) (h : c.service.registry.Filed) :
    (op.run c).2.service.registry.Filed := by
  rw [registry_run]
  cases op.registered? with
  | none => exact h
  | some sealer => exact h.register sealer

end Operation

/-! ## Sessions -/

/-- Nothing is bound yet, and the registry holds what was put into it. -/
structure Codec.IsNew (c : Codec) : Prop where
  registry : ∃ sealers, c.service.registry = .ofSealers sealers
  kept? : ∀ suite, c.service.kept? suite = none

namespace Session

variable {c : Codec} {suite : Suite} {kept : Kept} {session before after : Session}
  {step : (α : Type) × Operation α}

/-- The session drops the binding of the suite at some point. -/
def Drops (session : Session) (suite : Suite) : Prop := ∃ step ∈ session, step.2.Drops suite

/-- The session registers a sealer of the suite past the service at some point. -/
def Replaces (session : Session) (suite : Suite) : Prop := ∃ step ∈ session, step.2.Replaces suite

/-- Whenever a lookup of the suite found a binding, it was dropped later in the session. -/
def Unbound (c : Codec) (suite : Suite) (session : Session) : Prop :=
  ∀ (early : Session) (step : (α : Type) × Operation α) (late : Session),
    session = early ++ step :: late → step.2.Finds (early.run c) suite → late.Drops suite

/-- Since the binding of the suite was last dropped, `step` is the first to find one. -/
structure FirstFind (c : Codec) (suite : Suite) (session before : Session)
    (step : (α : Type) × Operation α) (after : Session) : Prop where
  session_eq : session = before ++ step :: after
  finds : step.2.Finds (before.run c) suite
  unbound : Unbound c suite before
  kept : ¬Drops after suite

theorem run_cons (step : (α : Type) × Operation α) (session : Session) (c : Codec) :
    run (step :: session) c = run session (step.2.run c).2 := rfl

theorem run_append (session session' : Session) (c : Codec) :
    run (session ++ session') c = run session' (run session c) := by
  induction session generalizing c with
  | nil => rfl
  | cons step session ih => exact ih _

theorem run_concat (session : Session) (step : (α : Type) × Operation α) (c : Codec) :
    run (session ++ [step]) c = (step.2.run (run session c)).2 := run_append session [step] c

theorem filed_run (h : c.service.registry.Filed) (session : Session) :
    (session.run c).service.registry.Filed := by
  induction session generalizing c with
  | nil => exact h
  | cons step session ih => exact ih (step.2.filed_run h)

theorem isSome_sealer?_run (h : (c.service.registry.sealer? suite).isSome) (session : Session) :
    ((session.run c).service.registry.sealer? suite).isSome := by
  induction session generalizing c with
  | nil => exact h
  | cons step session ih => exact ih (step.2.isSome_sealer?_run h)

/-- A binding that is not dropped is kept. -/
theorem kept?_run_of_kept (h : ¬Drops session suite) (hkept : c.service.kept? suite = some kept) :
    (session.run c).service.kept? suite = some kept := by
  induction session generalizing c with
  | nil => exact hkept
  | cons step session ih =>
    refine ih (fun ⟨other, hother, hdrops⟩ => h ⟨other, List.mem_cons_of_mem _ hother, hdrops⟩) ?_
    exact step.2.kept?_run_of_kept (fun hdrops => h ⟨step, List.mem_cons_self, hdrops⟩) hkept

theorem sealer?_run_of_other (hdrops : ¬Drops session suite) (hreplaces : ¬Replaces session suite)
    (c : Codec) :
    (session.run c).service.registry.sealer? suite = c.service.registry.sealer? suite := by
  induction session generalizing c with
  | nil => rfl
  | cons step session ih =>
    have hstep := step.2.sealer?_run_of_other
      (fun h => hdrops ⟨step, List.mem_cons_self, h⟩)
      (fun h => hreplaces ⟨step, List.mem_cons_self, h⟩) c
    rw [← hstep]
    exact ih (fun ⟨other, hother, h⟩ => hdrops ⟨other, List.mem_cons_of_mem _ hother, h⟩)
      (fun ⟨other, hother, h⟩ => hreplaces ⟨other, List.mem_cons_of_mem _ hother, h⟩) _

/-! ### The first find -/

/-- A step of a session with one operation more is the last one or was there before. -/
theorem split_concat {early late : Session} {other : (α : Type) × Operation α}
    (h : session ++ [step] = early ++ other :: late) :
    (early = session ∧ other = step) ∨
      ∃ late', late = late' ++ [step] ∧ session = early ++ other :: late' := by
  obtain rfl | ⟨late, last, rfl⟩ := late.eq_nil_or_concat'
  · obtain ⟨rfl, hother⟩ := List.append_inj' h rfl
    cases hother
    exact .inl ⟨rfl, rfl⟩
  · rw [← List.cons_append, ← List.append_assoc] at h
    obtain ⟨rfl, hlast⟩ := List.append_inj' h rfl
    cases hlast
    exact .inr ⟨late, rfl, rfl⟩

theorem unbound_concat_of_drops (h : step.2.Drops suite) :
    Unbound c suite (session ++ [step]) := by
  intro early other late hsession hfinds
  obtain ⟨-, rfl⟩ | ⟨late, rfl, -⟩ := split_concat hsession
  · exact absurd h (Operation.not_drops_of_lookup? hfinds.1)
  · exact ⟨step, by simp, h⟩

theorem Unbound.concat (hunbound : Unbound c suite session)
    (h : ¬step.2.Finds (session.run c) suite) : Unbound c suite (session ++ [step]) := by
  intro early other late hsession hfinds
  obtain ⟨rfl, rfl⟩ | ⟨late, rfl, hearlier⟩ := split_concat hsession
  · exact absurd hfinds h
  · obtain ⟨dropping, hmem, hdrops⟩ := hunbound early other late hearlier hfinds
    exact ⟨dropping, List.mem_append_left _ hmem, hdrops⟩

theorem FirstFind.concat {first : (α : Type) × Operation α}
    (hfirst : FirstFind c suite session before first after) (h : ¬step.2.Drops suite) :
    FirstFind c suite (session ++ [step]) before first (after ++ [step]) where
  session_eq := by rw [hfirst.session_eq, List.append_assoc, List.cons_append]
  finds := hfirst.finds
  unbound := hfirst.unbound
  kept := by
    rintro ⟨dropping, hmem, hdrops⟩
    rcases List.mem_append.1 hmem with hmem | hmem
    · exact hfirst.kept ⟨dropping, hmem, hdrops⟩
    · cases List.mem_singleton.1 hmem
      exact h hdrops

/-- A lookup finds something new exactly if the suite has a sealer. -/
theorem found?_eq_none_iff (hkept : c.service.kept? suite = none) :
    c.service.found? suite = none ↔ ¬(c.service.registry.sealer? suite).isSome := by
  rw [Service.found?_of_not_kept hkept, Option.map_eq_none_iff, Option.not_isSome_iff_eq_none]

/-- Either nothing is bound, or what is bound was found by a first lookup. -/
theorem unbound_or_firstFind (hc : c.service.kept? suite = none) (session : Session) :
    ((session.run c).service.kept? suite = none ∧ Unbound c suite session) ∨
      ∃ kept before step after, FirstFind c suite session before step after ∧
        (before.run c).service.kept? suite = none ∧
        (before.run c).service.found? suite = some kept := by
  induction session using List.reverseRecOn with
  | nil => exact .inl ⟨hc, fun early step late h => by simp at h⟩
  | append_singleton session step ih =>
    rw [run_concat]
    by_cases hdrops : step.2.Drops suite
    · exact .inl ⟨Operation.kept?_run_of_drops hdrops _, unbound_concat_of_drops hdrops⟩
    rcases ih with ⟨hnone, hunbound⟩ | ⟨kept, before, first, after, hfirst, hfound⟩
    · by_cases hfinds : step.2.Finds (run session c) suite
      · cases hfound : (run session c).service.found? suite with
        | none => exact absurd hfinds.2 ((found?_eq_none_iff hnone).1 hfound)
        | some kept =>
          exact .inr ⟨kept, session, step, [], ⟨rfl, hfinds, hunbound, nofun⟩, hnone, hfound⟩
      · refine .inl ⟨?_, hunbound.concat hfinds⟩
        rw [Operation.kept?_run _ hdrops]
        split
        · next hlookup => exact (found?_eq_none_iff hnone).2 fun h => hfinds ⟨hlookup, h⟩
        · exact hnone
    · exact .inr ⟨kept, before, first, after ++ [step], hfirst.concat hdrops, hfound⟩

/-- From the first find on, every lookup finds the same binding. -/
theorem FirstFind.found? (hfirst : FirstFind c suite session before step after)
    (hfound : (before.run c).service.found? suite = some kept) {span rest : Session}
    (hspan : step :: after = span ++ rest) :
    (run (before ++ span) c).service.found? suite = some kept := by
  rw [run_append]
  match span, hspan with
  | [], _ => exact hfound
  | first :: span, hspan =>
    obtain ⟨rfl, rfl⟩ := List.cons.inj hspan
    rw [run_cons]
    refine Service.found?_of_kept (kept?_run_of_kept ?_ ?_)
    · rintro ⟨dropping, hmem, hdrops⟩
      exact hfirst.kept ⟨dropping, List.mem_append_left _ hmem, hdrops⟩
    · exact Operation.kept?_run_of_found hfirst.finds.1 hfound

theorem FirstFind.kept? (hfirst : FirstFind c suite session before step after)
    (hfound : (before.run c).service.found? suite = some kept) :
    (session.run c).service.kept? suite = some kept := by
  rw [hfirst.session_eq, run_append, run_cons]
  exact kept?_run_of_kept hfirst.kept (Operation.kept?_run_of_found hfirst.finds.1 hfound)

/-- The sealer of the suite is the same as at the first find unless it was replaced. -/
theorem FirstFind.sealer? (hfirst : FirstFind c suite session before step after)
    (hreplaces : ¬Replaces after suite) :
    (session.run c).service.registry.sealer? suite =
      (before.run c).service.registry.sealer? suite := by
  rw [hfirst.session_eq, run_append, run_cons, sealer?_run_of_other hfirst.kept hreplaces]
  exact Operation.sealer?_run_of_other (Operation.not_drops_of_lookup? hfirst.finds.1)
    (Operation.not_replaces_of_lookup? hfirst.finds.1) _

theorem FirstFind.not_unbound (hfirst : FirstFind c suite session before step after) :
    ¬Unbound c suite session := fun hunbound =>
  hfirst.kept (hunbound before step after hfirst.session_eq hfirst.finds)

/-- **Bindings follow registrations.** Let nothing be bound at first, and let the registry hold any
sealers.

- The binding that is kept for a suite was found by the first lookup since the suite was last
  dropped, or since the start. Its sealer is of the suite and is the one that was registered then.
  Every lookup since then finds this same binding, and everything is sealed and opened under the suite
  with this sealer. It is still the registered one if nothing was registered past the service.
- None is kept exactly if each lookup that found a binding was followed by a drop.
- A lookup fails only because no sealer of the suite is registered, and leaves everything as it was.
- Once a sealer of the suite is registered, no lookup of the suite fails. -/
theorem bindings_follow_registrations (c : Codec) (hnew : c.IsNew) (session : Session)
    (suite : Suite) :
    (∀ kept, (session.run c).service.kept? suite = some kept →
      kept.binding.suite = suite ∧
      ∃ before step after, FirstFind c suite session before step after ∧
        (before.run c).service.registry.sealer? suite = some kept.binding.sealer ∧
        (∀ span rest, step :: after = span ++ rest →
          (Service.bindingFor suite (run (before ++ span) c).service).1 = .ok kept ∧
          (run (before ++ span) c).service.Uses suite kept.binding.sealer) ∧
        (¬Replaces after suite →
          (session.run c).service.registry.sealer? suite = some kept.binding.sealer)) ∧
    ((session.run c).service.kept? suite = none ↔ Unbound c suite session) ∧
    (∀ cause s', Service.bindingFor suite (session.run c).service = (.error cause, s') →
      cause = .unsupported suite ∧ s' = (session.run c).service ∧
      (session.run c).service.registry.sealer? suite = none ∧
      ∀ step : (α : Type) × Operation α, step.2.lookup? (session.run c) = some suite →
        (step.2.run (session.run c)).2.service.kept? = (session.run c).service.kept?) ∧
    (((session.run c).service.registry.sealer? suite).isSome → ∀ later : Session, ∃ kept,
      (Service.bindingFor suite (later.run (session.run c)).service).1 = .ok kept) := by
  refine ⟨fun kept hkept => ?_, ?_, fun cause s' hfailed => ?_, fun hregistered later => ?_⟩
  · rcases unbound_or_firstFind (hnew.kept? suite) session with
      ⟨hnone, -⟩ | ⟨found, before, step, after, hfirst, hnone, hfound⟩
    · cases hnone.symm.trans hkept
    obtain rfl : found = kept := Option.some.inj ((hfirst.kept? hfound).symm.trans hkept)
    have hsealer : (before.run c).service.registry.sealer? suite = some found.binding.sealer := by
      rw [Service.found?_of_not_kept hnone] at hfound
      obtain ⟨sealer, hsealer, rfl⟩ := Option.map_eq_some_iff.1 hfound
      exact hsealer
    obtain ⟨sealers, hregistry⟩ := hnew.registry
    have hfiled : (before.run c).service.registry.Filed :=
      filed_run (hregistry ▸ Registry.filed_ofSealers sealers) before
    refine ⟨hfiled _ _ hsealer, before, step, after, hfirst, hsealer, fun span rest hspan => ?_,
      fun hreplaces => (hfirst.sealer? hreplaces).trans hsealer⟩
    have hsince := hfirst.found? hfound hspan
    exact ⟨Service.bindingFor_eq_ok_iff.2 hsince, Service.uses_of_found hsince⟩
  · rcases unbound_or_firstFind (hnew.kept? suite) session with
      ⟨hnone, hunbound⟩ | ⟨kept, before, step, after, hfirst, -, hfound⟩
    · exact ⟨fun _ => hunbound, fun _ => hnone⟩
    · rw [hfirst.kept? hfound]
      exact ⟨nofun, fun hunbound => absurd hunbound hfirst.not_unbound⟩
  · obtain ⟨hcause, hsame, hkept, hmissing⟩ := Service.of_bindingFor_eq_error hfailed
    have hfound : (session.run c).service.found? suite = none := by
      rw [Service.found?_of_not_kept hkept, hmissing, Option.map_none]
    exact ⟨hcause, hsame, hmissing, fun step hlookup =>
      step.2.kept?_run_of_not_found hlookup hfound⟩
  · refine (Service.exists_bindingFor (.inr (isSome_sealer?_run hregistered later))).imp ?_
    rintro kept ⟨s', hkept⟩
    exact congrArg Prod.fst hkept

/-- The binding is older than the sealer that was put in the place of its own. A lookup that failed
has left no binding. -/
theorem binding_outlives_registration :
    (start [] (.always .gm) .fresh ⟨⟨fun _ => 0, 0⟩, []⟩).IsNew ∧
      (∃ before step after,
        FirstFind (start [] (.always .gm) .fresh ⟨⟨fun _ => 0, 0⟩, []⟩) .gm
          [⟨_, .bindingFor .modern⟩, ⟨_, .register (.plain "a" .gm "a")⟩, ⟨_, .encrypt "x"⟩,
            ⟨_, .put (.plain "b" .gm "b")⟩] before step after ∧
        Replaces after .gm) ∧
      Unbound (start [] (.always .gm) .fresh ⟨⟨fun _ => 0, 0⟩, []⟩) .modern
        [⟨_, .bindingFor .modern⟩, ⟨_, .register (.plain "a" .gm "a")⟩, ⟨_, .encrypt "x"⟩,
          ⟨_, .put (.plain "b" .gm "b")⟩] := by
  have hnew : (start [] (.always .gm) .fresh ⟨⟨fun _ => 0, 0⟩, []⟩).IsNew :=
    ⟨⟨[], rfl⟩, fun _ => rfl⟩
  obtain ⟨hbound, -⟩ := bindings_follow_registrations _ hnew
    [⟨_, .bindingFor .modern⟩, ⟨_, .register (.plain "a" .gm "a")⟩, ⟨_, .encrypt "x"⟩,
      ⟨_, .put (.plain "b" .gm "b")⟩] .gm
  obtain ⟨-, hunbound, -⟩ := bindings_follow_registrations _ hnew
    [⟨_, .bindingFor .modern⟩, ⟨_, .register (.plain "a" .gm "a")⟩, ⟨_, .encrypt "x"⟩,
      ⟨_, .put (.plain "b" .gm "b")⟩] .modern
  obtain ⟨-, before, step, after, hfirst, -, -, hstill⟩ :=
    hbound ⟨0, ⟨.plain "a" .gm "a"⟩⟩ rfl
  refine ⟨hnew, ⟨before, step, after, hfirst, ?_⟩, hunbound.1 rfl⟩
  by_contra hreplaces
  have hnames := congrArg (Option.map Sealer.name) (hstill hreplaces)
  exact absurd hnames (by decide)

end Session

end FieldSeal

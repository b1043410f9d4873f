import FieldSeal.Proofs.Session.Binding
import FieldSeal.Proofs.Session.Outcome

/-!
# The log tells outcomes and nothing else

**Theorem (`log_tells_outcomes_alone`).** Take two sessions of a codec with built-in sealers that
differ in texts, masks, envelopes, keys and random bytes. If the same suites are active in both and
the outcomes of the steps are the same, then so are the events. And the events are true: what was
sealed, opened or found to be tampered with is reported once and of the right suite, and nothing else
is.

**Two runs** (`Alike`). What is hidden in the state and has a say in the events is which suites are
registered, which keys are lacking and whether the supply has warned. It stays alike from step to
step, since what each step does to it is settled by its role and its outcome (`alike_run`).
-/

namespace FieldSeal

/-! ## Two runs -/

/-- The supplies refuse the same suites with the same errors, lack keys of the same kinds, and have
both given their warning or not. -/
structure KeySupply.Alike (supply supply' : KeySupply) : Prop where
  warns : supply.warns = supply'.warns
  lacks : supply.lacks = supply'.lacks
  refusal? : supply.refusal? = supply'.refusal?

theorem Reports.alike {asked : Bool} {kinds : List KeyKind} {marks : List Event}
    {j₁ j₁' j₂ j₂' : KeySupply × List Event} (h₁ : Reports asked kinds marks j₁ j₁')
    (h₂ : Reports asked kinds marks j₂ j₂') (hsupply : j₁.1.Alike j₂.1) (hevents : j₁.2 = j₂.2) :
    j₁'.1.Alike j₂'.1 ∧ j₁'.2 = j₂'.2 := by
  refine ⟨⟨?_, ?_, ?_⟩, ?_⟩
  · rw [h₁.warns, h₂.warns, hsupply.warns]
  · funext kind
    rw [h₁.lacks, h₂.lacks, hsupply.lacks]
  · rw [h₁.refusal?, h₂.refusal?, hsupply.refusal?]
  · rw [h₁.events, h₂.events, hevents, KeySupply.notices_congr hsupply.warns fun kind _ =>
      congrFun hsupply.lacks kind]

/-- Only built-in sealers are in use, what is bound is registered, and the supply is honest. -/
structure Codec.Regular (c : Codec) : Prop where
  builtIn : c.service.BuiltIn
  registered : ∀ suite, (c.service.kept? suite).isSome → (c.service.registry.sealer? suite).isSome
  honest : c.service.supply.Honest

/-- The codecs have the same suites registered, supplies that are alike, and the same events. -/
structure Codec.Alike (c c' : Codec) : Prop where
  registered : ∀ suite, (c.service.registry.sealer? suite).isSome ↔
    (c'.service.registry.sealer? suite).isSome
  supply : c.service.supply.Alike c'.service.supply
  events : c.service.host.events = c'.service.host.events

namespace Codec

variable {c c' : Codec}

theorem Regular.offers_iff (h : c.Regular) (suite : Suite) :
    c.service.Offers suite ↔ (c.service.registry.sealer? suite).isSome :=
  ⟨fun hoffers => hoffers.elim (h.registered suite) id, .inr⟩

theorem Alike.view_eq (h : c.Alike c') (hc : c.Regular) (hc' : c'.Regular)
    (hactive : c.service.policy.ask.1 = c'.service.policy.ask.1) : c.view = c'.view := by
  have hoffers : c.service.Offers c.service.policy.ask.1 ↔
      c'.service.Offers c'.service.policy.ask.1 := by
    rw [hc.offers_iff, hc'.offers_iff, h.registered, hactive]
  rw [view, view, View.mk.injEq, h.supply.refusal?, decide_eq_decide]
  exact ⟨hactive, hoffers, by rw [hactive]⟩

end Codec

namespace Operation

variable {α α' : Type} {op : Operation α} {op' : Operation α'} {c c' : Codec}

theorem registered_run (op : Operation α) (c : Codec) (suite : Suite) :
    ((op.run c).2.service.registry.sealer? suite).isSome ↔
      op.role = .register suite ∨ (c.service.registry.sealer? suite).isSome := by
  have hregister : ∀ sealer : Sealer,
      ((c.service.registry.register sealer).sealer? suite).isSome ↔
        Role.register sealer.suite = .register suite ∨
          (c.service.registry.sealer? suite).isSome := by
    intro sealer
    by_cases hsuite : suite = sealer.suite
    · simp [hsuite]
    · rw [Registry.sealer?_register_of_ne _ hsuite, Role.register.injEq]
      simp [Ne.symm hsuite]
  rw [registry_run]
  cases op with
  | register sealer => exact hregister sealer
  | put sealer => exact hregister sealer
  | _ => exact ⟨.inr, fun h => h.resolve_left nofun⟩

theorem regular_run (hop : op.BuiltIn) (hc : c.Regular) : (op.run c).2.Regular where
  builtIn := (op.follows_run hop c).builtIn hc.builtIn
  registered suite hkept := by
    by_cases hdrops : op.Drops suite
    · rw [kept?_run_of_drops hdrops] at hkept
      cases hkept
    · refine op.isSome_sealer?_run ?_
      rw [kept?_run op hdrops] at hkept
      split at hkept
      · cases hkept' : c.service.kept? suite with
        | some kept => exact hc.registered suite (Option.isSome_of_eq_some hkept')
        | none =>
          rw [Service.found?_of_not_kept hkept', Option.isSome_map] at hkept
          exact hkept
      · exact hc.registered suite hkept
  honest := by
    have hrefusal : (op.run c).2.service.supply.refusal? = c.service.supply.refusal? :=
      (op.reports_run c).refusal?
    intro suite other
    rw [hrefusal]
    exact hc.honest suite other

/-- Operations of the same role with the same outcome leave behind what is alike. -/
theorem alike_run (hc : c.Regular) (hc' : c'.Regular) (hop : op.Formed) (hop' : op'.Formed)
    (hrole : op.role = op'.role) (hactive : c.service.policy.ask.1 = c'.service.policy.ask.1)
    (houtcome : op.outcome c = op'.outcome c') (h : c.Alike c') :
    (op.run c).2.Alike (op'.run c').2 := by
  have hreports := op.reports_outcome hc.builtIn hc.honest hop
  have hreports' := op'.reports_outcome hc'.builtIn hc'.honest hop'
  rw [← hrole, ← houtcome, ← h.view_eq hc hc' hactive] at hreports'
  obtain ⟨hsupply, hevents⟩ := hreports.alike hreports' h.supply h.events
  refine ⟨fun suite => ?_, hsupply, hevents⟩
  rw [registered_run, registered_run, hrole, h.registered]

end Operation

namespace Session

/-- The envelopes that are opened in the session have nonces of their suites. -/
def Formed (session : Session) : Prop := ∀ step ∈ session, step.2.Formed

/-- Two sessions in step: the operations have the same roles, and whenever they are performed the
same suites are active and the outcomes are the same. -/
inductive Parallel : Codec → Codec → Session → Session → Prop
  | nil {c c' : Codec} : Parallel c c' [] []
  | cons {c c' : Codec} {step step' : (α : Type) × Operation α} {session session' : Session}
    (role : step.2.role = step'.2.role)
    (active : c.service.policy.ask.1 = c'.service.policy.ask.1)
    (outcome : step.2.outcome c = step'.2.outcome c')
    (rest : Parallel (step.2.run c).2 (step'.2.run c').2 session session') :
    Parallel c c' (step :: session) (step' :: session')

variable {c c' : Codec} {session session' : Session}

theorem regular_run (hsession : session.BuiltIn) (hc : c.Regular) : (session.run c).Regular := by
  induction session generalizing c with
  | nil => exact hc
  | cons step session ih =>
    exact ih (fun other hother => hsession other (List.mem_cons_of_mem _ hother))
      (Operation.regular_run (hsession step List.mem_cons_self) hc)

/-- Sessions in step leave behind what is alike. -/
theorem Parallel.alike (h : Parallel c c' session session') (hc : c.Regular) (hc' : c'.Regular)
    (hsession : session.BuiltIn ∧ session.Formed) (hsession' : session'.BuiltIn ∧ session'.Formed)
    (halike : c.Alike c') : (session.run c).Alike (session'.run c') := by
  induction h with
  | nil => exact halike
  | cons role active outcome rest ih =>
    have hhead := Operation.alike_run hc hc' (hsession.2 _ List.mem_cons_self)
      (hsession'.2 _ List.mem_cons_self) role active outcome halike
    refine ih (Operation.regular_run (hsession.1 _ List.mem_cons_self) hc)
      (Operation.regular_run (hsession'.1 _ List.mem_cons_self) hc') ⟨?_, ?_⟩ ⟨?_, ?_⟩ hhead
    · exact fun other hother => hsession.1 other (List.mem_cons_of_mem _ hother)
    · exact fun other hother => hsession.2 other (List.mem_cons_of_mem _ hother)
    · exact fun other hother => hsession'.1 other (List.mem_cons_of_mem _ hother)
    · exact fun other hother => hsession'.2 other (List.mem_cons_of_mem _ hother)

theorem regular_start (suites : List Suite) (policy : Policy) {supply : KeySupply} (host : Host)
    (hhonest : supply.Honest) : (start suites policy supply host).Regular :=
  ⟨builtIn_start suites policy supply host, fun _ => nofun, hhonest⟩

/-- **The log tells outcomes and nothing else.** Let the sealers be built in, let the supply not claim
itself that envelopes were tampered with, and let nothing be bound at first.

- Two sessions in step, whose suites at the start, events at the start and kinds of keys are the same,
  have the same events. Their texts, masks, rules, envelopes, keys, random bytes and policies may
  differ.
- An operation that makes an envelope, even if it withholds it for its mask, reports one encryption,
  under the active suite. One that opens an envelope reports one decryption, under the suite of the
  envelope. A failed authentication is reported exactly if it is the error, and then once. No other
  operation reports any of these. -/
theorem log_tells_outcomes_alone (suites : List Suite) (policy policy' : Policy)
    (supply supply' : KeySupply) (host host' : Host) (hsupply : supply.Alike supply')
    (hhonest : supply.Honest) (hevents : host.events = host'.events) :
    (∀ session session' : Session, session.BuiltIn ∧ session.Formed →
      session'.BuiltIn ∧ session'.Formed →
      Parallel (start suites policy supply host) (start suites policy' supply' host')
        session session' →
      (session.run (start suites policy supply host)).service.host.events =
        (session'.run (start suites policy' supply' host')).service.host.events) ∧
    ∀ (session : Session), session.BuiltIn → ∀ (α : Type) (op : Operation α),
      let c := session.run (start suites policy supply host)
      ∃ logged, (op.run c).2.service.host.events = c.service.host.events ++ logged ∧
        (∀ e, op.envelope? c = some e → e.suite = c.service.policy.ask.1 ∧
          logged.filter Event.isMark = [.encrypted c.service.policy.ask.1]) ∧
        (∀ suite, op.opened? c = some suite →
          logged.filter Event.isMark = [.decrypted suite]) ∧
        (∀ suite, op.error? c = some (.envelope (.tampered suite)) →
          logged.filter Event.isMark = [.failedAuthentication suite]) ∧
        (∀ suite, .failedAuthentication suite ∈ logged →
          op.error? c = some (.envelope (.tampered suite))) ∧
        (op.envelope? c = none → op.opened? c = none →
          (∀ suite, op.error? c ≠ some (.envelope (.tampered suite))) →
          logged.filter Event.isMark = []) := by
  have hregular := regular_start suites policy host hhonest
  have hhonest' : supply'.Honest := by
    intro suite other
    rw [← hsupply.refusal?]
    exact hhonest suite other
  refine ⟨fun session session' hsession hsession' hparallel => ?_, fun session hsession α op => ?_⟩
  · have halike : (start suites policy supply host).Alike (start suites policy' supply' host') :=
      ⟨fun _ => Iff.rfl, hsupply, hevents⟩
    exact (hparallel.alike hregular (regular_start suites policy' host' hhonest') hsession
      hsession' halike).events
  · intro c
    obtain ⟨hs, -, hc⟩ := regular_run hsession hregular
    have hnotices := filter_isMark_notices c.service.supply (op.asked c) (op.asks c)
    have hfilter : (c.service.supply.notices (op.asked c) (op.asks c) ++ op.marks c).filter
        Event.isMark = (op.marks c).filter Event.isMark := by
      rw [List.filter_append, hnotices, List.nil_append]
    refine ⟨c.service.supply.notices (op.asked c) (op.asks c) ++ op.marks c,
      (op.reports_run c).events, fun e he => ?_, fun suite h => ?_, fun suite h => ?_,
      fun suite h => ?_, fun henvelope hopened htampered => ?_⟩
    · obtain ⟨hsuite, hmarks⟩ := Operation.marks_of_envelope? hs he
      refine ⟨hsuite, hfilter.trans ?_⟩
      rw [hmarks]
      rfl
    · rw [hfilter, Operation.marks_of_opened? hs hc h]
      rfl
    · rw [hfilter, Operation.marks_of_tampered hs hc h]
      rfl
    · rcases List.mem_append.1 h with hnotice | hmark
      · have hmem := List.mem_filter.2 ⟨hnotice, (rfl : (Event.failedAuthentication suite).isMark)⟩
        rw [hnotices] at hmem
        cases hmem
      · exact Operation.tampered_of_mem_marks hs hc hmark
    · exact hfilter.trans (Operation.marks_of_nothing hs hc henvelope hopened htampered)

/-- Two values that are sealed and withheld for their masks, and two envelopes that fail
authentication under generated keys: the keys are made at different times and of different bytes. -/
theorem hidden_values_leave_no_trace :
    KeySupply.fresh.Alike .fresh ∧ KeySupply.fresh.Honest ∧
      Parallel (start [.gm, .modern] (.always .modern) .fresh ⟨⟨fun _ => 0, 0⟩, []⟩)
        (start [.gm, .modern] (.always .modern) .fresh ⟨⟨fun _ => 1, 5⟩, []⟩)
        [⟨_, .encryptWithMask "x" "|"⟩, ⟨_, .decrypt "_mask|GM|AAAAAAAAAAAAAAAAAAAAAA|||"⟩]
        [⟨_, .encryptWithMask "yes" "a|b"⟩,
          ⟨_, .decrypt "_mask|GM|BBBBBBBBBBBBBBBBBBBBBA|aA|aA|m"⟩] ∧
      (run [⟨_, .encryptWithMask "x" "|"⟩, ⟨_, .decrypt "_mask|GM|AAAAAAAAAAAAAAAAAAAAAA|||"⟩]
        (start [.gm, .modern] (.always .modern) .fresh
          ⟨⟨fun _ => 0, 0⟩, []⟩)).service.host.events =
      (run [⟨_, .encryptWithMask "yes" "a|b"⟩,
          ⟨_, .decrypt "_mask|GM|BBBBBBBBBBBBBBBBBBBBBA|aA|aA|m"⟩]
        (start [.gm, .modern] (.always .modern) .fresh
          ⟨⟨fun _ => 1, 5⟩, []⟩)).service.host.events := by
  have halike : KeySupply.fresh.Alike .fresh := ⟨rfl, rfl, rfl⟩
  have hhonest : KeySupply.fresh.Honest :=
    KeySupply.honest_of_refusal? (KeySupply.refusal?_generated {} false)
  have hparallel : Parallel
      (start [.gm, .modern] (.always .modern) .fresh ⟨⟨fun _ => 0, 0⟩, []⟩)
      (start [.gm, .modern] (.always .modern) .fresh ⟨⟨fun _ => 1, 5⟩, []⟩)
      [⟨_, .encryptWithMask "x" "|"⟩, ⟨_, .decrypt "_mask|GM|AAAAAAAAAAAAAAAAAAAAAA|||"⟩]
      [⟨_, .encryptWithMask "yes" "a|b"⟩,
        ⟨_, .decrypt "_mask|GM|BBBBBBBBBBBBBBBBBBBBBA|aA|aA|m"⟩] :=
    .cons rfl rfl (by decide +kernel) (.cons rfl rfl (by decide +kernel) .nil)
  obtain ⟨htwo, -⟩ := log_tells_outcomes_alone [.gm, .modern] (.always .modern) (.always .modern)
    .fresh .fresh ⟨⟨fun _ => 0, 0⟩, []⟩ ⟨⟨fun _ => 1, 5⟩, []⟩ halike hhonest rfl
  refine ⟨halike, hhonest, hparallel, htwo _ _ ?_ ?_ hparallel⟩
  · simp [BuiltIn, Formed, Operation.BuiltIn, Operation.Formed]
  · simp [BuiltIn, Formed, Operation.BuiltIn, Operation.Formed]

end Session

end FieldSeal

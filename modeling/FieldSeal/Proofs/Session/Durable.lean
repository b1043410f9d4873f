import FieldSeal.Proofs.Session.Basic

/-!
# Sealed values stay readable

**Theorem (`sealed_text_stays_readable`).** Whatever an operation of a session sealed, the service
opens for the rest of the session, no matter what is done in between and which suite is active.

An operation that seals (`Seals`) leaves a service to which its wire text is readable. From there on
the session only leads to codecs that follow it, and those can read what it could.
-/

namespace FieldSeal

namespace Operation

/-- The operation sealed a text, and with its answer the caller has the wire text. An envelope may be
written with any mask that it accepts. -/
inductive Seals : {α : Type} → Operation α → α → (text wire : String) → Prop
  | encrypt {text : String} {e : Envelope} : Seals (encrypt text) (.ok e) text e.toWire
  | encryptShowing {text mask wire : String} {e : Envelope} (h : e.withMask mask = .ok wire) :
    Seals (encrypt text) (.ok e) text wire
  | encryptToWire {text wire : String} : Seals (encryptToWire text) (.ok wire) text wire
  | encryptWithMask {text mask wire : String} :
    Seals (encryptWithMask text mask) (.ok wire) text wire
  | protect {rule : MaskRule} {value wire : String} (h : value ≠ "") :
    Seals (protect rule value) (.ok wire) value wire

theorem onService_eq_ok_iff {α : Type} {a : Service.Step α} {c c' : Codec} {x : α} :
    onService a c = (.ok x, c') ↔ ∃ s, a c.service = (.ok x, s) ∧ { c with service := s } = c' :=
  Action.on_eq_ok_iff

/-- What an operation sealed is readable after it. -/
theorem readable_of_seals {α : Type} {op : Operation α} {answer : α} {text wire : String}
    (hseals : Seals op answer text wire) {c c' : Codec} (hc : c.service.BuiltIn)
    (h : op.run c = (answer, c')) : c'.service.Readable wire text := by
  cases hseals with
  | encrypt =>
    obtain ⟨s, hs, rfl⟩ := onService_eq_ok_iff.1 h
    obtain ⟨hopens, hlen⟩ := Service.opens_of_encrypt hc hs
    exact ⟨_, Envelope.parse_toWire hlen, hopens⟩
  | encryptShowing hmask =>
    obtain ⟨s, hs, rfl⟩ := onService_eq_ok_iff.1 h
    obtain ⟨hopens, hlen⟩ := Service.opens_of_encrypt hc hs
    exact ⟨_, Envelope.parse_of_withMask hlen hmask, hopens⟩
  | encryptToWire =>
    obtain ⟨s, hs, rfl⟩ := onService_eq_ok_iff.1 h
    obtain ⟨e, s₁, hencrypt, hwire⟩ := Action.bind_eq_ok_iff.1 hs
    cases hwire
    obtain ⟨hopens, hlen⟩ := Service.opens_of_encrypt hc hencrypt
    exact ⟨_, Envelope.parse_toWire hlen, hopens⟩
  | encryptWithMask =>
    obtain ⟨s, hs, rfl⟩ := onService_eq_ok_iff.1 h
    exact Service.readable_of_encryptWithMask hc hs
  | protect hvalue => exact Codec.readable_of_protect hc hvalue h

end Operation

namespace Session

/-- **What was sealed stays readable.** A session over any supply and policy registers built-in
sealers only. If one of its operations sealed a text, then decrypting its wire text succeeds after
the operations that follow, and gives exactly the text. -/
theorem sealed_text_stays_readable (suites : List Suite) (policy : Policy) (supply : KeySupply)
    (host : Host) (before after : Session) {α : Type} (op : Operation α)
    (hbefore : before.BuiltIn) (hop : op.BuiltIn) (hafter : after.BuiltIn) (text wire : String)
    (hseals : op.Seals (op.run (before.run (start suites policy supply host))).1 text wire) :
    ((Operation.decrypt wire).run
      (after.run (op.run (before.run (start suites policy supply host))).2)).1 = .ok text := by
  have hready : (before.run (start suites policy supply host)).service.BuiltIn :=
    (follows_run hbefore _).builtIn (builtIn_start suites policy supply host)
  generalize before.run (start suites policy supply host) = c at hseals hready ⊢
  have hreadable : (op.run c).2.service.Readable wire text :=
    Operation.readable_of_seals hseals hready rfl
  have hsealing : c.Follows (op.run c).2 := op.follows_run hop c
  have hlater : (op.run c).2.Follows (after.run (op.run c).2) := follows_run hafter _
  exact Service.decrypt_of_readable (hlater.builtIn (hsealing.builtIn hready))
    (hlater.readable hreadable)

/-- A value that is sealed after a failure, and read after the active suite changed and both suites
were registered anew. -/
theorem value_survives_new_policy :
    BuiltIn [⟨_, .decrypt "_mask|GM"⟩] ∧
      BuiltIn [⟨_, .setPolicy (.always .gm)⟩, ⟨_, .register (.builtIn .modern)⟩,
        ⟨_, .put (.builtIn .gm)⟩, ⟨_, .encryptToWire "b"⟩] ∧
      ∃ wire,
        ((Operation.encryptToWire "a").run (run [⟨_, .decrypt "_mask|GM"⟩]
          (start [.modern] (.always .modern) .fresh ⟨⟨fun _ => 7, 0⟩, []⟩))).1 = .ok wire ∧
        ((Operation.decrypt wire).run
          (run [⟨_, .setPolicy (.always .gm)⟩, ⟨_, .register (.builtIn .modern)⟩,
              ⟨_, .put (.builtIn .gm)⟩, ⟨_, .encryptToWire "b"⟩]
            ((Operation.encryptToWire "a").run (run [⟨_, .decrypt "_mask|GM"⟩]
              (start [.modern] (.always .modern) .fresh ⟨⟨fun _ => 7, 0⟩, []⟩))).2)).1 =
          .ok "a" := by
  have hbefore : BuiltIn [⟨_, .decrypt "_mask|GM"⟩] := by simp [BuiltIn, Operation.BuiltIn]
  have hafter : BuiltIn [⟨_, .setPolicy (.always .gm)⟩, ⟨_, .register (.builtIn .modern)⟩,
      ⟨_, .put (.builtIn .gm)⟩, ⟨_, .encryptToWire "b"⟩] := by
    simp [BuiltIn, Operation.BuiltIn]
  have hwire : ((Operation.encryptToWire "a").run (run [⟨_, .decrypt "_mask|GM"⟩]
      (start [.modern] (.always .modern) .fresh ⟨⟨fun _ => 7, 0⟩, []⟩))).1 =
        .ok "_mask|MODERN|BwcHBwcHBwcHBwcH|Jw|x22ArStPpeR-D5jggAdrnA|" := by decide +kernel
  refine ⟨hbefore, hafter, _, hwire, ?_⟩
  refine sealed_text_stays_readable _ _ _ _ _ _ (.encryptToWire "a") hbefore trivial hafter _ _ ?_
  rw [hwire]
  exact .encryptToWire

end Session

end FieldSeal

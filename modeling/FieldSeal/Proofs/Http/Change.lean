import FieldSeal.Proofs.Document.Replay
import FieldSeal.Proofs.Exchange.Resolve
import FieldSeal.Proofs.Http.RoundTrip
import FieldSeal.Proofs.Session.Log

/-!
# Changes are all or nothing

**Theorem (`changes_are_all_or_nothing`).** A message that asks for a change is answered in one of
three ways. If a kind of values is unknown, the first one is named and nothing was done. If every
addressed text goes through the codec, the answer is the document with all of them changed. Otherwise
it tells the error of the first text that does not, and nothing of the document.

**Runs.** What a server does under its rules is the run of `Outcome`, and any description of this
sort is right (`FieldRule.applyAll_eq_iff`), so the theorem speaks of every such description.

**Reports.** Only the server says that a request failed, and it says so once: codecs report keys and
what became of envelopes (`Codec.reported_protect`, `Codec.reported_reveal`).
-/

namespace FieldSeal

open FieldRule

/-! ## Reports -/

/-- The event is reported by the server itself. -/
def Event.isServer : Event → Bool
  | .protectFailed _ | .revealFailed _ => true
  | _ => false

namespace KeySupply

theorem not_isServer_of_mem_notices {supply : KeySupply} {asked : Bool} {kinds : List KeyKind}
    {e : Event} (h : e ∈ supply.notices asked kinds) : ¬e.isServer := by
  rcases List.mem_append.1 h with hwarning | hkey
  · split at hwarning
    · cases List.mem_singleton.1 hwarning
      exact nofun
    · cases hwarning
  · obtain ⟨kind, -, rfl⟩ := List.mem_map.1 hkey
    exact nofun

end KeySupply

namespace Service

theorem not_isServer_of_mem_verdict {suite : Suite} {result : Except EnvelopeError String}
    {e : Event} (h : e ∈ verdict suite result) : ¬e.isServer := by
  unfold verdict at h
  split at h
  · cases List.mem_singleton.1 h
    exact nofun
  · cases List.mem_singleton.1 h
    exact nofun
  · cases h

theorem not_isServer_of_mem_readMarks {wire : String} {s : Service} {e : Event}
    (h : e ∈ readMarks wire s) : ¬e.isServer := by
  unfold readMarks at h
  split at h
  · unfold openMarks at h
    split at h
    · cases h
    · exact not_isServer_of_mem_verdict h
  · cases h

end Service

namespace Codec

/-- Events were reported, none of them by the server. -/
def Reported (c c' : Codec) : Prop :=
  ∃ logged, c'.service.host.events = c.service.host.events ++ logged ∧ ∀ e ∈ logged, ¬e.isServer

instance : IsPreorder Codec Reported where
  refl c := ⟨[], (List.append_nil _).symm, nofun⟩
  trans := by
    rintro a b c ⟨logged, hb, hlogged⟩ ⟨later, hc, hlater⟩
    refine ⟨logged ++ later, by rw [hc, hb, List.append_assoc], fun e he => ?_⟩
    exact (List.mem_append.1 he).elim (hlogged e) (hlater e)

theorem reported_of_reports {c c' : Codec} {asked : Bool} {kinds : List KeyKind}
    {marks : List Event} (h : Reports asked kinds marks c.service.journal c'.service.journal)
    (hmarks : ∀ e ∈ marks, ¬e.isServer) : c.Reported c' := by
  refine ⟨_, h.events, fun e he => ?_⟩
  exact (List.mem_append.1 he).elim KeySupply.not_isServer_of_mem_notices (hmarks e)

theorem reported_protect (rule : MaskRule) (value : String) :
    Action.Along Reported (protect rule value) := by
  refine fun c => reported_of_reports (Operation.reports_protect rule value c) fun e he => ?_
  obtain ⟨sealed, -, rfl⟩ := List.mem_map.1 he
  exact nofun

theorem reported_reveal (rule : MaskRule) (wire : String) :
    Action.Along Reported (reveal rule wire) :=
  fun c => reported_of_reports (Operation.reports_reveal rule wire c) fun _ =>
    Service.not_isServer_of_mem_readMarks

end Codec

namespace Http

/-! ## Handlers -/

/-- What is done to texts at a place, and what is reported when it fails. -/
inductive Handler : Place → (MaskRule → String → Codec.Step String) → (String → Event) → Prop
  | protect : Handler .protect Codec.protect .protectFailed
  | reveal : Handler .reveal Codec.reveal .revealFailed

variable {place : Place} {f : MaskRule → String → Codec.Step String} {failed : String → Event}
  {r : Request} {message : Exchange.Request} {rules : List FieldRule} {payload : Json}
  {e : FieldError} {c d : Codec}

theorem Handler.respond (h : Handler place f failed)
    (hplace : Place.ofTarget? r.target = some place) (hmethod : r.method = "POST")
    (hdecode : decode r = .ok message) (c : Codec) :
    respond r c = change (applyAll f) failed message c := by
  cases h with
  | protect => exact respond_protect hplace hmethod hdecode
  | reveal => exact respond_reveal hplace hmethod hdecode

theorem Handler.reported (h : Handler place f failed) (rule : MaskRule) (text : String) :
    Action.Along Codec.Reported (f rule text) := by
  cases h with
  | protect => exact Codec.reported_protect rule text
  | reveal => exact Codec.reported_reveal rule text

/-- A failure is a warning that tells the error and nothing else. -/
theorem Handler.warns (h : Handler place f failed) (reason : String) :
    (failed reason).level = .warn ∧ (failed reason).fields = [("error", reason)] := by
  cases h <;> exact ⟨rfl, rfl⟩

/-- The codec after an event was reported. -/
def reporting (e : Event) (c : Codec) : Codec :=
  { c with service := { c.service with host := c.service.host.report e } }

/-! ## Answers -/

theorem change_of_unresolved {walk : List FieldRule → Document.Walk Codec FieldError}
    {failure : Exchange.Failure} (h : Exchange.resolve message.fields = .error failure) :
    change walk failed message c = (refuse failure, c) := by
  simp only [change, h]

theorem change_of_completed (hrules : Exchange.resolve message.fields = .ok rules)
    (h : Outcome f rules message.payload c (.ok (), payload, d)) :
    change (applyAll f) failed message c = (.json 200 (Exchange.Answer.mk payload).write, d) :=
  change_of_ok hrules (applyAll_of_outcome h)

theorem change_of_stopped (failed : String → Event)
    (hrules : Exchange.resolve message.fields = .ok rules)
    (h : Outcome f rules message.payload c (.error e, payload, d)) :
    ∃ status code, Exchange.Answered e status code ∧
      change (applyAll f) failed message c =
        (.json status (Exchange.Refusal.mk code e.message).write,
          reporting (failed e.message) d) := by
  refine ⟨_, _, Exchange.answered_ofFieldError e, ?_⟩
  simp only [change, hrules, applyAll_of_outcome h, refuse, Exchange.Failure.refusal,
    Exchange.message_ofFieldError, reporting]

/-- The status 200 tells that a run completed. -/
theorem status_change_iff (hrules : Exchange.resolve message.fields = .ok rules) :
    (change (applyAll f) failed message c).1.status = 200 ↔
      ∃ payload c', Outcome f rules message.payload c (.ok (), payload, c') := by
  constructor
  · intro hstatus
    obtain ⟨rules', payload, c', hrules', hrun⟩ := exists_of_status hstatus
    cases hrules.symm.trans hrules'
    exact ⟨payload, c', applyAll_eq_iff.1 hrun⟩
  · rintro ⟨payload, c', hrun⟩
    rw [change_of_completed hrules hrun]
    rfl

/-- **Changes are all or nothing.** Let the body of a request to protect or to reveal be a message.

- If the kind of a field is unknown, the first such kind is named in the answer, and the codec is as
  it was, although the kinds before it are known.
- Otherwise the fields denote rules, whose visits are made rule by rule, in ascending order of the
  places that the path of the rule addresses. There is one outcome of the run. The document of a run
  that completed is the answer. Of a run that stopped, the answer and one warning of the server tell
  the error at which it stopped, and nothing else. The status 200 tells that the run completed. -/
theorem changes_are_all_or_nothing (h : Handler place f failed)
    (hplace : Place.ofTarget? r.target = some place) (hmethod : r.method = "POST")
    (hdecode : decode r = .ok message) (c : Codec) :
    (∀ before spec after, message.fields = before ++ spec :: after →
      (∀ earlier ∈ before, ∃ kind : SensitiveKind, kind.name = earlier.kind) →
      (∀ kind : SensitiveKind, kind.name ≠ spec.kind) →
      respond r c = (.json 400 (Exchange.Refusal.mk "bad_request"
        ("unknown sensitive type: " ++ spec.kind)).write, c)) ∧
    ((∀ spec ∈ message.fields, ∃ kind : SensitiveKind, kind.name = spec.kind) →
      ∃ rules, List.Forall₂ FieldSpec.Denotes message.fields rules ∧
        (visitsOf rules message.payload = rules.flatMap fun field =>
          (Document.reach (Path.parse field.path) message.payload).map fun place =>
            (field.rule, place)) ∧
        (∀ path : Path, (Document.reach path message.payload).Pairwise (· < ·) ∧
          ∀ place, place ∈ Document.reach path message.payload ↔
            Document.Addresses path message.payload place) ∧
        (∃! outcome, Outcome f rules message.payload c outcome) ∧
        (∀ payload c', Outcome f rules message.payload c (.ok (), payload, c') →
          respond r c = (.json 200 (Exchange.Answer.mk payload).write, c')) ∧
        (∀ e payload c', Outcome f rules message.payload c (.error e, payload, c') →
          (∃ status code, Exchange.Answered e status code ∧ status ≠ 200 ∧
            respond r c = (.json status (Exchange.Refusal.mk code e.message).write,
              reporting (failed e.message) c')) ∧
          (failed e.message).level = .warn ∧ (failed e.message).fields = [("error", e.message)] ∧
          ∃ logged, (respond r c).2.service.host.events =
              c.service.host.events ++ logged ++ [failed e.message] ∧
            ∀ event ∈ logged, ¬event.isServer) ∧
        ((respond r c).1.status = 200 ↔
          ∃ payload c', Outcome f rules message.payload c (.ok (), payload, c'))) := by
  have hrespond := h.respond hplace hmethod hdecode c
  refine ⟨fun before spec after hfields hbefore hspec => ?_, fun hknown => ?_⟩
  · have hresolve : Exchange.resolve message.fields = .error _ :=
      hfields ▸ Exchange.resolve_of_unknown hbefore (not_exists.2 hspec) after
    rw [hrespond, change_of_unresolved hresolve]
    rfl
  · obtain ⟨rules, hdenoted⟩ := Exchange.exists_denoted hknown
    have hrules := Exchange.resolve_of_forall₂ hdenoted
    refine ⟨rules, hdenoted, rfl, fun path => ⟨Document.ascending_reach path _, fun _ =>
      Document.mem_reach_iff⟩, ⟨_, outcome_applyAll f rules message.payload c, fun _ hrun =>
        (applyAll_of_outcome hrun).symm⟩, ?_, ?_, ?_⟩
    · intro payload c' hrun
      rw [hrespond, change_of_completed hrules hrun]
    · intro e payload c' hrun
      obtain ⟨status, code, hanswered, hchange⟩ :=
        change_of_stopped failed hrules hrun
      obtain ⟨hwarn, hreason⟩ := h.warns e.message
      obtain ⟨logged, hevents, hlogged⟩ := hrun.along h.reported
      rw [hrespond, hchange]
      refine ⟨⟨status, code, hanswered, hanswered.ne_ok, rfl⟩, hwarn, hreason, logged, ?_, hlogged⟩
      exact congrArg (· ++ [failed e.message]) hevents
    · rw [hrespond]
      exact status_change_iff hrules

/-- The text is sealed under the first field, and too short for the second one even then. -/
def shortTwice : Exchange.Request where
  payload := escaped.payload
  fields :=
    [⟨"a", "custom", some 0, some 0, some "", some false⟩,
      ⟨"a", "custom", some 1000, some 0, some "", some false⟩]

theorem sound_shortTwice : shortTwice.Sound := by
  refine ⟨sound_escaped.payload, fun spec hspec => ?_⟩
  rcases List.mem_cons.1 hspec with rfl | hspec
  · exact ⟨by rintro _ ⟨⟩; decide, by rintro _ ⟨⟩; decide⟩
  · cases List.mem_singleton.1 hspec
    exact ⟨by rintro _ ⟨⟩; decide, by rintro _ ⟨⟩; decide⟩

/-- The second of two fields is refused, and the answer does not show what became of the first. -/
theorem late_failure_hides_the_document :
    ∃ (c : Codec) (r : Request), Place.ofTarget? r.target = some .protect ∧ r.method = "POST" ∧
      decode r = .ok shortTwice ∧
      (respond r c).1 = .json 400 (Exchange.Refusal.mk "bad_request"
        "value is too short to mask: keeping 1000 of 61 characters").write ∧
      ∃ logged, (respond r c).2.service.host.events = c.service.host.events ++ logged ++
        [.protectFailed "value is too short to mask: keeping 1000 of 61 characters"] := by
  let c : Codec := { service := .standard (.always .modern) .fresh ⟨⟨fun _ => 7, 0⟩, []⟩ }
  let r : Request := ⟨"POST", "/protect", some "application/json", shortTwice.write⟩
  have hdecode : decode r = .ok shortTwice :=
    decode_write sound_shortTwice integral_escaped (by decide +kernel) rfl (by decide +kernel)
  have hknown : ∀ spec ∈ shortTwice.fields, ∃ kind : SensitiveKind, kind.name = spec.kind :=
    List.forall_mem_cons.2 ⟨⟨.custom, rfl⟩, List.forall_mem_singleton.2 ⟨.custom, rfl⟩⟩
  obtain ⟨-, hrun⟩ :=
    changes_are_all_or_nothing .protect (r := r) (by decide +kernel) rfl hdecode c
  obtain ⟨rules, hrules, -, -, -, -, hstopped, -⟩ := hrun hknown
  have hresolve : Exchange.resolve shortTwice.fields =
      .ok [⟨"a", .custom 0 0 "" false⟩, ⟨"a", .custom 1000 0 "" false⟩] := by rfl
  cases (Exchange.resolve_of_forall₂ hrules).symm.trans hresolve
  have hfailed : (applyAll Codec.protect [⟨"a", .custom 0 0 "" false⟩,
      ⟨"a", .custom 1000 0 "" false⟩] (shortTwice.payload, c)).1 =
        .error (.mask (.tooShort 1000 61)) := by decide +kernel
  have houtcome := outcome_applyAll Codec.protect [⟨"a", .custom 0 0 "" false⟩,
    ⟨"a", .custom 1000 0 "" false⟩] shortTwice.payload c
  generalize applyAll Codec.protect _ (shortTwice.payload, c) = outcome at hfailed houtcome
  obtain ⟨result, payload, c'⟩ := outcome
  cases hfailed
  obtain ⟨⟨status, code, hanswered, -, hanswer⟩, -, -, logged, hevents, -⟩ :=
    hstopped _ _ _ houtcome
  cases hanswered
  exact ⟨c, r, by decide +kernel, rfl, hdecode, congrArg Prod.fst hanswer, logged, hevents⟩

end Http

end FieldSeal

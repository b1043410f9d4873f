import FieldSeal.Proofs.Document.Rules
import FieldSeal.Proofs.Document.Shape

/-!
# What rules do to a document

**Theorem (`rules_act_on_addressed_texts`).** Field rules change the texts that they address and
nothing else. Every addressed text goes through the codec once for each rule that addresses it, in
the order of the rules. After a failure the document shows what was done before.

**Calls.** A text that goes through the codec is a `Call`. The calls of a run follow one another from
the codec at the start to the one at the end (`Calls`), and those at one place lead from the text
that was there to the text that is there now (`Leads`). So the calls determine what becomes of the
document (`Effect.unique`).

**Runs.** One visit performs one call (`Performed.cons`), and a list of visits performs them up to
the first failure (`performed_of_ok`, `performed_of_error`). What a run of rules over a document does
is read from its filling.
-/

namespace FieldSeal

open Document

namespace FieldRule

/-! ## Calls -/

/-- A text that went through the codec under a rule, and the text that came out. -/
structure Call where
  rule : MaskRule
  place : Place
  old : String
  new : String

namespace Call

/-- The visit on which the call was made. -/
def visit (call : Call) : MaskRule × Place := (call.rule, call.place)

end Call

/-- The calls at one place. -/
def callsAt (place : Place) (calls : List Call) : List Call := calls.filter (·.place = place)

/-- Successful calls, each with the codec that the one before left. -/
inductive Calls (f : MaskRule → String → Codec.Step String) : Codec → List Call → Codec → Prop
  | nil {c : Codec} : Calls f c [] c
  | cons {c d c' : Codec} {call : Call} {calls : List Call}
    (h : f call.rule call.old c = (.ok call.new, d)) (rest : Calls f d calls c') :
    Calls f c (call :: calls) c'

/-- Each call takes the text that the one before made. -/
inductive Leads : String → List Call → String → Prop
  | nil {text : String} : Leads text [] text
  | cons {rule : MaskRule} {place : Place} {old new text : String} {calls : List Call}
    (rest : Leads new calls text) : Leads old (⟨rule, place, old, new⟩ :: calls) text

variable {f : MaskRule → String → Codec.Step String} {calls : List Call} {c c' d : Codec}

theorem Leads.unique {text new new' : String} (h : Leads text calls new)
    (h' : Leads text calls new') : new = new' := by
  induction h with
  | nil =>
    cases h'
    rfl
  | cons _ ih =>
    cases h' with
    | cons rest => exact ih rest

theorem Leads.eq_of_nil {text new : String} (h : Leads text [] new) : new = text := by
  cases h
  rfl

theorem callsAt_cons_self (call : Call) (calls : List Call) :
    callsAt call.place (call :: calls) = call :: callsAt call.place calls :=
  List.filter_cons_of_pos (decide_eq_true rfl)

theorem callsAt_cons_of_ne {place : Place} {call : Call} (h : call.place ≠ place)
    (calls : List Call) : callsAt place (call :: calls) = callsAt place calls :=
  List.filter_cons_of_neg (by simpa using h)

theorem callsAt_eq_nil {place : Place} (h : ∀ call ∈ calls, call.place ≠ place) :
    callsAt place calls = [] := by
  refine List.filter_eq_nil_iff.2 fun call hcall => ?_
  simpa using h call hcall

/-! ## Visits of a filling -/

/-- The calls were made one after another, on the texts as they were at that time. -/
structure Performed (f : MaskRule → String → Codec.Step String) (texts : Place → String)
    (c : Codec) (calls : List Call) (texts' : Place → String) (c' : Codec) : Prop where
  made : Calls f c calls c'
  leads : ∀ place, Leads (texts place) (callsAt place calls) (texts' place)

variable {texts texts' : Place → String} {vs : List (MaskRule × Place)} {v : MaskRule × Place}

theorem Performed.nil : Performed f texts c [] texts c := ⟨.nil, fun _ => .nil⟩

/-- One call, and then others. -/
theorem Performed.cons {new : String} (h : f v.1 (texts v.2) c = (.ok new, d))
    (rest : Performed f (Function.update texts v.2 new) d calls texts' c') :
    Performed f texts c (⟨v.1, v.2, texts v.2, new⟩ :: calls) texts' c' := by
  refine ⟨.cons h rest.made, fun place => ?_⟩
  have hleads := rest.leads place
  by_cases hplace : v.2 = place
  · subst hplace
    rw [Function.update_self] at hleads
    have hself := callsAt_cons_self ⟨v.1, v.2, texts v.2, new⟩ calls
    rw [hself]
    exact .cons hleads
  · rw [Function.update_of_ne (Ne.symm hplace)] at hleads
    have hother : (⟨v.1, v.2, texts v.2, new⟩ : Call).place ≠ place := hplace
    rwa [callsAt_cons_of_ne hother]

/-- A run that succeeds makes a call on every visit. -/
theorem performed_of_ok (h : touchAll f vs (texts, c) = (.ok (), texts', c')) :
    ∃ calls, Performed f texts c calls texts' c' ∧ calls.map Call.visit = vs := by
  induction vs generalizing texts c with
  | nil =>
    cases h
    exact ⟨[], .nil, rfl⟩
  | cons v vs ih =>
    obtain ⟨state, hv, hvs⟩ := Action.each_cons_eq_ok_iff.1 h
    obtain ⟨new, d, hcall, rfl⟩ := touch_eq_ok_iff.1 hv
    obtain ⟨calls, hperformed, hvisits⟩ := ih hvs
    refine ⟨⟨v.1, v.2, texts v.2, new⟩ :: calls, .cons hcall hperformed, ?_⟩
    rw [List.map_cons, hvisits]
    rfl

/-- A run that fails makes a call on every visit up to one, and there the codec fails. -/
theorem performed_of_error {e : FieldError}
    (h : touchAll f vs (texts, c) = (.error e, texts', c')) :
    ∃ calls v rest d, Performed f texts c calls texts' d ∧
      vs = calls.map Call.visit ++ v :: rest ∧ f v.1 (texts' v.2) d = (.error e, c') := by
  induction vs generalizing texts c with
  | nil => cases h
  | cons v vs ih =>
    rcases hcall : f v.1 (texts v.2) c with ⟨result, d⟩
    cases result with
    | error cause =>
      have hfailed : touchAll f (v :: vs) (texts, c) = (.error cause, texts, d) :=
        Action.each_cons_of_error (f := fun v : MaskRule × Place => touch (f v.1) v.2)
          (touch_of_error hcall) vs
      rw [hfailed] at h
      cases h
      exact ⟨[], v, vs, c, .nil, rfl, hcall⟩
    | ok new =>
      rw [touchAll_cons_of_ok hcall] at h
      obtain ⟨calls, w, rest, d', hperformed, rfl, hfailed⟩ := ih h
      exact ⟨_, w, rest, d', .cons hcall hperformed, rfl, hfailed⟩

/-! ## Effects on documents -/

variable {doc doc' doc'' : Json} {rules : List FieldRule}

/-- What calls make of a document: its shape stays, the texts at each place become what the calls
there lead to, and all others stay too. -/
structure Effect (f : MaskRule → String → Codec.Step String) (doc : Json) (c : Codec)
    (calls : List Call) (doc' : Json) (c' : Codec) : Prop where
  made : Calls f c calls c'
  shape : ∀ place, doc'.node? place = doc.node? place
  texts : ∀ place text, doc.textAt? place = some text →
    ∃ new, doc'.textAt? place = some new ∧ Leads text (callsAt place calls) new
  others : ∀ place, (∀ call ∈ calls, call.place ≠ place) → doc'.textAt? place = doc.textAt? place

theorem Performed.effect (h : Performed f doc.texts c calls texts' c') :
    Effect f doc c calls (doc.fill texts') c' where
  made := h.made
  shape := Json.node?_fill texts' doc
  texts := by
    intro place text htext
    have hleads := h.leads place
    rw [Json.texts_of_textAt? htext] at hleads
    exact ⟨texts' place, by rw [Json.textAt?_fill, htext, Option.map_some], hleads⟩
  others := by
    intro place hnone
    have hleads := h.leads place
    rw [callsAt_eq_nil hnone] at hleads
    rw [Json.textAt?_fill, hleads.eq_of_nil]
    cases htext : doc.textAt? place with
    | none => rfl
    | some text => rw [Option.map_some, Json.texts_of_textAt? htext]

/-- No texts come about. -/
theorem Effect.textAt?_eq_none {place : Place} (h : Effect f doc c calls doc' c')
    (hnone : doc.textAt? place = none) : doc'.textAt? place = none := by
  refine Option.eq_none_iff_forall_ne_some.2 fun text hsome => ?_
  obtain ⟨old, hold⟩ := Json.exists_textAt?_iff.2
    ((h.shape place).symm.trans (Json.exists_textAt?_iff.1 ⟨text, hsome⟩))
  cases hnone.symm.trans hold

/-- The calls determine what becomes of the document. -/
theorem Effect.unique {c'' : Codec} (h : Effect f doc c calls doc' c')
    (h' : Effect f doc c calls doc'' c'') : doc' = doc'' := by
  refine Json.eq_of_node?_of_textAt? (fun place => (h.shape place).trans (h'.shape place).symm)
    fun place => ?_
  cases htext : doc.textAt? place with
  | some text =>
    obtain ⟨new, hnew, hleads⟩ := h.texts place text htext
    obtain ⟨new', hnew', hleads'⟩ := h'.texts place text htext
    rw [hnew, hnew', hleads.unique hleads']
  | none => rw [h.textAt?_eq_none htext, h'.textAt?_eq_none htext]

/-! ## The rules at a place -/

theorem filter_visits (field : FieldRule) (j : Json) (place : Place) :
    (field.visits j).filter (·.2 = place) =
      if field.Reaches j place then [(field.rule, place)] else [] := by
  have hfilter : (reach (Path.parse field.path) j).filter (· = place) =
      if field.Reaches j place then [place] else [] := by
    rw [List.filter_eq]
    by_cases hreach : field.Reaches j place
    · rw [if_pos hreach, List.count_eq_one_of_mem (nodup_reach _ j) hreach]
      rfl
    · rw [if_neg hreach, List.count_eq_zero_of_not_mem hreach]
      rfl
  rw [visits, List.filter_map]
  show ((reach (Path.parse field.path) j).filter (· = place)).map _ = _
  rw [hfilter]
  split <;> rfl

/-- The rules that visit a place are those that reach it, in their order. -/
theorem filter_visitsOf (rules : List FieldRule) (j : Json) (place : Place) :
    ((visitsOf rules j).filter (·.2 = place)).map Prod.fst =
      (rules.filter (·.Reaches j place)).map (·.rule) := by
  induction rules with
  | nil => rfl
  | cons field rules ih =>
    have hcons : visitsOf (field :: rules) j = field.visits j ++ visitsOf rules j :=
      List.flatMap_cons
    rw [hcons, List.filter_append, List.map_append, ih, filter_visits]
    by_cases hreach : field.Reaches j place
    · simp [hreach]
    · simp [hreach]

theorem rules_at (h : calls.map Call.visit = visitsOf rules doc) (place : Place) :
    (callsAt place calls).map (·.rule) =
      (rules.filter (·.Reaches doc place)).map (·.rule) := by
  rw [← filter_visitsOf, ← h, List.filter_map, List.map_map]
  rfl

/-- A place of a call is reached by one of the rules. -/
theorem exists_reaches {call : Call} (h : call.visit ∈ visitsOf rules doc) :
    ∃ field ∈ rules, field.Reaches doc call.place := by
  obtain ⟨field, hfield, hvisit⟩ := List.mem_flatMap.1 h
  obtain ⟨place, hplace, heq⟩ := List.mem_map.1 hvisit
  have hcall : place = call.place := congrArg Prod.snd heq
  exact ⟨field, hfield, hcall ▸ hplace⟩

/-! ## Runs of rules -/

/-- What a run of rules did, by its result. -/
inductive Outcome (f : MaskRule → String → Codec.Step String) (rules : List FieldRule)
    (doc : Json) (c : Codec) : Except FieldError Unit × Json × Codec → Prop
  /-- A call was made on every visit, at each place under the rules that reach it. -/
  | completed {calls : List Call} {doc' : Json} {c' : Codec} (effect : Effect f doc c calls doc' c')
    (every : calls.map Call.visit = visitsOf rules doc)
    (rules_at : ∀ place, (callsAt place calls).map (·.rule) =
      (rules.filter (·.Reaches doc place)).map (·.rule)) :
    Outcome f rules doc c (.ok (), doc', c')
  /-- Calls were made on the visits before one, and there the codec failed on the text that they
  left. -/
  | stopped {calls : List Call} {v : MaskRule × Place} {rest : List (MaskRule × Place)}
    {doc' : Json} {d c' : Codec} {e : FieldError} {text : String}
    (effect : Effect f doc c calls doc' d)
    (before : visitsOf rules doc = calls.map Call.visit ++ v :: rest)
    (here : doc'.textAt? v.2 = some text) (failed : f v.1 text d = (.error e, c')) :
    Outcome f rules doc c (.error e, doc', c')

theorem outcome_applyAll (f : MaskRule → String → Codec.Step String) (rules : List FieldRule)
    (doc : Json) (c : Codec) : Outcome f rules doc c (applyAll f rules (doc, c)) := by
  have happly := applyAll_fill f rules doc doc.texts c
  rw [Json.fill_texts] at happly
  rw [happly]
  rcases hrun : touchAll f (visitsOf rules doc) (doc.texts, c) with ⟨result, texts', c'⟩
  cases result with
  | ok =>
    obtain ⟨calls, hperformed, hvisits⟩ := performed_of_ok hrun
    exact .completed hperformed.effect hvisits (rules_at hvisits)
  | error e =>
    obtain ⟨calls, v, rest, d, hperformed, hvisits, hfailed⟩ := performed_of_error hrun
    have hv : v ∈ visitsOf rules doc := by
      rw [hvisits]
      exact List.mem_append_right _ List.mem_cons_self
    obtain ⟨field, -, hfield⟩ := List.mem_flatMap.1 hv
    obtain ⟨old, hold⟩ := exists_text_of_mem_visits hfield
    refine .stopped hperformed.effect hvisits ?_ hfailed
    rw [Json.textAt?_fill, hold, Option.map_some]

/-- Whether a run succeeds or fails, what no rule addresses is left alone. -/
theorem Outcome.textAt?_of_not_addressed {outcome : Except FieldError Unit × Json × Codec}
    (h : Outcome f rules doc c outcome) {place : Place}
    (hnone : ∀ field ∈ rules, ¬Addresses (Path.parse field.path) doc place) :
    outcome.2.1.textAt? place = doc.textAt? place := by
  have hother : ∀ call : Call, call.visit ∈ visitsOf rules doc → call.place ≠ place := by
    rintro call hcall rfl
    obtain ⟨field, hfield, hreach⟩ := exists_reaches hcall
    exact hnone field hfield (mem_reach_iff.1 hreach)
  cases h with
  | completed effect every _ =>
    refine effect.others place fun call hcall => hother call ?_
    rw [← every]
    exact List.mem_map_of_mem hcall
  | stopped effect before _ _ =>
    refine effect.others place fun call hcall => hother call ?_
    rw [before]
    exact List.mem_append_left _ (List.mem_map_of_mem hcall)

/-! ## Progress -/

section Progress

variable {R : Codec → Codec → Prop} [IsPreorder Codec R]

theorem Calls.along (hf : ∀ rule text, Action.Along R (f rule text)) (h : Calls f c calls c') :
    R c c' := by
  induction h with
  | nil => exact Std.Refl.refl _
  | cons hcall _ ih => exact IsTrans.trans _ _ _ ((hf _ _).of_eq hcall) ih

/-- Rules move a codec as their calls do, whether they succeed or fail. -/
theorem Outcome.along (hf : ∀ rule text, Action.Along R (f rule text))
    {outcome : Except FieldError Unit × Json × Codec} (h : Outcome f rules doc c outcome) :
    R c outcome.2.2 := by
  cases h with
  | completed effect _ _ => exact effect.made.along hf
  | stopped effect _ _ failed =>
    exact IsTrans.trans _ _ _ (effect.made.along hf) ((hf _ _).of_eq failed)

end Progress

end FieldRule

namespace Document

open FieldRule

/-- **Rules act on the texts that they address.**

- The visits of rules are, rule by rule, the places that its path addresses, in ascending order.
- A run that succeeds has made one call of the codec on each visit, and thereby at each place one
  under each rule that addresses it, in the order of the rules. The text at the place is what these
  calls lead to; the shape of the document and all other texts are as before.
- A run that fails has made the calls on the visits before one of them, with the same effect, and
  reports the error of the codec there. That text and those that only later visits would have
  changed are as they were.
- What no rule addresses is left alone in either case. -/
theorem rules_act_on_addressed_texts (rules : List FieldRule) (doc : Json) (c : Codec) :
    (visitsOf rules doc = rules.flatMap fun field =>
      (reach (Path.parse field.path) doc).map fun place => (field.rule, place)) ∧
    (∀ (path : Path) (place : Place), place ∈ reach path doc ↔ Addresses path doc place) ∧
    (∀ path : Path, (reach path doc).Pairwise (· < ·)) ∧
    Outcome Codec.protect rules doc c (protectFields rules (doc, c)) ∧
    Outcome Codec.reveal rules doc c (revealFields rules (doc, c)) ∧
    ∀ place, (∀ field ∈ rules, ¬Addresses (Path.parse field.path) doc place) →
      (protectFields rules (doc, c)).2.1.textAt? place = doc.textAt? place ∧
      (revealFields rules (doc, c)).2.1.textAt? place = doc.textAt? place := by
  have hprotect := outcome_applyAll Codec.protect rules doc c
  have hreveal := outcome_applyAll Codec.reveal rules doc c
  exact ⟨rfl, fun _ _ => mem_reach_iff, fun path => ascending_reach path doc, hprotect, hreveal,
    fun _ hnone => ⟨hprotect.textAt?_of_not_addressed hnone,
      hreveal.textAt?_of_not_addressed hnone⟩⟩

/-- A text that is too short for its rule stops a run after the text before it was sealed. The text
behind it is addressed by no rule. -/
theorem short_text_stops_rules :
    (∀ field ∈ [(⟨"a[]", .custom 1 0 "" false⟩ : FieldRule)],
      ¬Addresses (Path.parse field.path)
        (.object [("a", .array [.string "xy", .string "z"]), ("b", .string "z")]) [1]) ∧
    ∃ outcome, protectFields [⟨"a[]", .custom 1 0 "" false⟩]
        (.object [("a", .array [.string "xy", .string "z"]), ("b", .string "z")],
          { service := .standard (.always .modern) .fresh ⟨⟨fun _ => 7, 0⟩, []⟩ }) = outcome ∧
      outcome.1 = .error (.mask (.tooShort 1 1)) ∧
      (outcome.2.1.textAt? [0, 0]).map Envelope.isEnvelope = some true ∧
      outcome.2.1.textAt? [0, 1] = some "z" ∧ outcome.2.1.textAt? [1] = some "z" := by
  have hnone : ∀ field ∈ [(⟨"a[]", .custom 1 0 "" false⟩ : FieldRule)],
      ¬Addresses (Path.parse field.path)
        (.object [("a", .array [.string "xy", .string "z"]), ("b", .string "z")]) [1] := by
    intro field hfield
    cases List.mem_singleton.1 hfield
    rw [← mem_reach_iff]
    decide +kernel
  obtain ⟨-, -, -, -, -, hothers⟩ := rules_act_on_addressed_texts
    [⟨"a[]", .custom 1 0 "" false⟩]
    (.object [("a", .array [.string "xy", .string "z"]), ("b", .string "z")])
    { service := .standard (.always .modern) .fresh ⟨⟨fun _ => 7, 0⟩, []⟩ }
  refine ⟨hnone, _, rfl, ?_, ?_, ?_, (hothers [1] hnone).1⟩
  · decide +kernel
  · decide +kernel
  · decide +kernel

end Document

end FieldSeal

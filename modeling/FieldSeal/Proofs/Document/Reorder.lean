import FieldSeal.Proofs.Document.Effect

/-!
# Rules that address different texts

**Order** (`Settled.reorder`). Let what the codec answers be settled, up to some relation, by the rule
and the text alone. If no text is addressed by two of the rules, then their order has no part in whether
they succeed, and what comes of each text in one order is related to what comes of it in the other.

**One call** (`Outcome.exists_call`). In such a run each addressed text goes through the codec once, as
it was at first. So a run in another order cannot fail: wherever it would, the first one made a call on
the same text under the same rule.
-/

namespace FieldSeal

open Document

/-- No text of the document is addressed by two of the rules. -/
def Document.Apart (rules : List FieldRule) (doc : Json) : Prop :=
  rules.Pairwise fun field other => ∀ place,
    ¬(Addresses (Path.parse field.path) doc place ∧ Addresses (Path.parse other.path) doc place)

namespace FieldRule

/-- Among codecs of which `I` holds, whether the action succeeds depends on the rule and the text alone,
and so does what it makes of the text, up to `R`. -/
structure Settled (f : MaskRule → String → Codec.Step String) (I : Codec → Prop)
    (R : String → String → String → Prop) : Prop where
  keeps : ∀ rule text, Action.Along (fun c c' => I c → I c') (f rule text)
  agrees : ∀ {rule text c c' new}, I c → I c' → (f rule text c).1 = .ok new →
    ∃ new', (f rule text c').1 = .ok new' ∧ R text new new'

variable {f : MaskRule → String → Codec.Step String} {I : Codec → Prop}
  {R : String → String → String → Prop} {rules rules' : List FieldRule} {doc doc' : Json}
  {c c' d : Codec} {calls : List Call} {place : Place}

/-! ## Apart -/

theorem apart_of_perm (h : Apart rules doc) (hperm : rules.Perm rules') : Apart rules' doc :=
  (hperm.pairwise_iff fun hne place hboth => hne place hboth.symm).1 h

/-- Rules that are apart visit no place twice. -/
theorem times_le_one (h : Apart rules doc) (place : Place) : times rules doc place ≤ 1 := by
  induction rules with
  | nil => exact Nat.zero_le 1
  | cons field rules ih =>
    obtain ⟨hfield, hrules⟩ := List.pairwise_cons.1 h
    rw [times, List.countP_cons, ← times]
    by_cases hreach : field.Reaches doc place
    · have hnone : times rules doc place = 0 := by
        refine List.countP_eq_zero.2 fun other hother hreach' => ?_
        exact hfield other hother place
          ⟨mem_reach_iff.1 hreach, mem_reach_iff.1 (of_decide_eq_true hreach')⟩
      simp [hnone, hreach]
    · simpa [hreach] using ih hrules

theorem length_callsAt (place : Place) (calls : List Call) :
    (callsAt place calls).length = (calls.map Call.visit).countP (·.2 = place) := by
  rw [callsAt, ← List.countP_eq_length_filter, List.countP_map]
  rfl

theorem mem_callsAt {call : Call} (h : call ∈ calls) : call ∈ callsAt call.place calls :=
  List.mem_filter.2 ⟨h, decide_eq_true rfl⟩

/-- A single call at a place takes the text that was there and leaves the one that is. -/
theorem leads_of_single {text new : String} {call : Call} (h : call ∈ calls)
    (hone : (callsAt call.place calls).length ≤ 1)
    (hleads : Leads text (callsAt call.place calls) new) : call.old = text ∧ call.new = new := by
  have hmem := mem_callsAt h
  rcases hcalls : callsAt call.place calls with _ | ⟨only, rest⟩
  · rw [hcalls] at hmem
    cases hmem
  · rw [hcalls, List.length_cons] at hone
    obtain rfl : rest = [] := List.eq_nil_of_length_eq_zero (by omega)
    rw [hcalls] at hmem hleads
    cases List.mem_singleton.1 hmem
    cases hleads with
    | cons rest => exact ⟨rfl, rest.eq_of_nil.symm⟩

/-! ## Runs -/

/-- Every call was made by a codec of which `I` holds. -/
theorem Calls.exists_codec (hkeeps : ∀ rule text, Action.Along (fun c c' => I c → I c') (f rule text))
    (h : Calls f c calls c') (hc : I c) :
    I c' ∧ ∀ call ∈ calls, ∃ d, I d ∧ (f call.rule call.old d).1 = .ok call.new := by
  induction h with
  | nil => exact ⟨hc, fun _ => nofun⟩
  | @cons c d c' call calls hcall _ ih =>
    obtain ⟨hlast, hcalls⟩ := ih ((hkeeps call.rule call.old).of_eq hcall hc)
    refine ⟨hlast, fun other hother => ?_⟩
    rcases List.mem_cons.1 hother with rfl | hother
    · exact ⟨c, hc, congrArg Prod.fst hcall⟩
    · exact hcalls other hother

/-- A rule that reaches a text has made one call on it. -/
theorem Outcome.exists_call (hkeeps : ∀ rule text,
      Action.Along (fun c c' => I c → I c') (f rule text))
    (h : Outcome f rules doc c (.ok (), doc', c')) (hc : I c) (hapart : Apart rules doc)
    {field : FieldRule} (hfield : field ∈ rules) (hreach : field.Reaches doc place) {text : String}
    (htext : doc.textAt? place = some text) :
    ∃ d new, I d ∧ (f field.rule text d).1 = .ok new ∧ doc'.textAt? place = some new := by
  cases h with
  | @completed calls _ _ effect every _ =>
    have hvisit : (field.rule, place) ∈ visitsOf rules doc :=
      List.mem_flatMap.2 ⟨field, hfield, List.mem_map.2 ⟨place, hreach, rfl⟩⟩
    rw [← every] at hvisit
    obtain ⟨call, hcall, hcall'⟩ := List.mem_map.1 hvisit
    obtain ⟨hrule, rfl⟩ : call.rule = field.rule ∧ call.place = place := Prod.mk.inj hcall'
    have hone : (callsAt call.place calls).length ≤ 1 := by
      rw [length_callsAt, every, countP_visits]
      exact times_le_one hapart _
    obtain ⟨new, hnew, hleads⟩ := effect.texts _ _ htext
    obtain ⟨rfl, rfl⟩ := leads_of_single hcall hone hleads
    obtain ⟨d, hd, hmade⟩ := (effect.made.exists_codec hkeeps hc).2 call hcall
    exact ⟨d, call.new, hd, hrule ▸ hmade, hnew⟩

/-- When a run fails on a text, it is one that it had not changed before. -/
theorem Outcome.exists_failed (hkeeps : ∀ rule text,
      Action.Along (fun c c' => I c → I c') (f rule text)) {e : FieldError}
    (h : Outcome f rules doc c (.error e, doc', c')) (hc : I c) (hapart : Apart rules doc) :
    ∃ field ∈ rules, ∃ place text d, field.Reaches doc place ∧ doc.textAt? place = some text ∧
      I d ∧ (f field.rule text d).1 = .error e := by
  cases h with
  | @stopped calls v rest _ d _ _ text effect before here failed =>
    have hvisit : v ∈ visitsOf rules doc := by
      rw [before]
      exact List.mem_append_right _ List.mem_cons_self
    obtain ⟨field, hfield, hplace⟩ := List.mem_flatMap.1 hvisit
    obtain ⟨place, hreach, rfl⟩ := List.mem_map.1 hplace
    -- The place is visited once, and so by none of the calls before.
    have hnone : ∀ call ∈ calls, call.place ≠ place := by
      rintro call hcall rfl
      have htimes := times_le_one hapart call.place
      have hbefore : 0 < (calls.map Call.visit).countP (·.2 = call.place) :=
        List.countP_pos_iff.2 ⟨call.visit, List.mem_map_of_mem hcall, decide_eq_true rfl⟩
      have hlater : 0 < ((field.rule, call.place) :: rest).countP (·.2 = call.place) :=
        List.countP_pos_iff.2 ⟨_, List.mem_cons_self, decide_eq_true rfl⟩
      rw [← countP_visits, before, List.countP_append] at htimes
      omega
    refine ⟨field, hfield, place, text, d, hreach, ?_, (effect.made.exists_codec hkeeps hc).1,
      congrArg Prod.fst failed⟩
    rw [← effect.others place hnone]
    exact here

/-- Rules make no texts. -/
theorem textAt?_eq_none_of_applyAll (h : applyAll f rules (doc, c) = (.ok (), doc', d))
    (hnone : doc.textAt? place = none) : doc'.textAt? place = none := by
  have houtcome := outcome_applyAll f rules doc c
  rw [h] at houtcome
  cases houtcome with
  | completed effect _ _ => exact effect.textAt?_eq_none hnone

/-- **Rules that are apart may be put into another order.** -/
theorem Settled.reorder (hf : Settled f I R) (hc : I c) (hc' : I c') (hperm : rules.Perm rules')
    (hapart : Apart rules doc) (h : applyAll f rules (doc, c) = (.ok (), doc', d)) :
    ∃ doc'' d', applyAll f rules' (doc, c') = (.ok (), doc'', d') ∧
      (∀ place, doc''.node? place = doc'.node? place) ∧
      ∀ place text, doc.textAt? place = some text →
        ((∀ field ∈ rules, ¬Addresses (Path.parse field.path) doc place) ∧
          doc'.textAt? place = some text ∧ doc''.textAt? place = some text) ∨
        ((∃ field ∈ rules, Addresses (Path.parse field.path) doc place) ∧
          ∃ new new', R text new new' ∧ doc'.textAt? place = some new ∧
            doc''.textAt? place = some new') := by
  have hapart' := apart_of_perm hapart hperm
  have hfirst := outcome_applyAll f rules doc c
  have hsecond := outcome_applyAll f rules' doc c'
  rw [h] at hfirst
  rcases hrun : applyAll f rules' (doc, c') with ⟨result, doc'', d'⟩
  rw [hrun] at hsecond
  cases result with
  | error e =>
    obtain ⟨field, hfield, place, text, b, hreach, htext, hb, hfailed⟩ :=
      hsecond.exists_failed hf.keeps hc' hapart'
    obtain ⟨b', new, hb', hmade, -⟩ :=
      hfirst.exists_call hf.keeps hc hapart (hperm.mem_iff.2 hfield) hreach htext
    obtain ⟨new', hmade', -⟩ := hf.agrees hb' hb hmade
    cases hfailed.symm.trans hmade'
  | ok =>
    refine ⟨doc'', d', rfl, fun place => ?_, fun place text htext => ?_⟩
    · cases hfirst with
      | completed effect _ _ =>
        cases hsecond with
        | completed effect' _ _ => rw [effect'.shape, effect.shape]
    · by_cases hnone : ∀ field ∈ rules, ¬Addresses (Path.parse field.path) doc place
      · refine .inl ⟨hnone, ?_, ?_⟩
        · exact (hfirst.textAt?_of_not_addressed hnone).trans htext
        · exact (hsecond.textAt?_of_not_addressed fun field hfield =>
            hnone field (hperm.mem_iff.2 hfield)).trans htext
      · simp only [not_forall, not_not] at hnone
        obtain ⟨field, hfield, haddressed⟩ := hnone
        have hreach : field.Reaches doc place := mem_reach_iff.2 haddressed
        obtain ⟨b, new, hb, hmade, hnew⟩ :=
          hfirst.exists_call hf.keeps hc hapart hfield hreach htext
        obtain ⟨b', new', hb', hmade', hnew'⟩ :=
          hsecond.exists_call hf.keeps hc' hapart' (hperm.mem_iff.1 hfield) hreach htext
        obtain ⟨other, hother, hrelated⟩ := hf.agrees hb hb' hmade
        cases hother.symm.trans hmade'
        exact .inr ⟨⟨field, hfield, haddressed⟩, new, new', hrelated, hnew, hnew'⟩

/-- In one order the rules succeed exactly if they do in the other. -/
theorem Settled.succeeds_iff (hf : Settled f I R) (hc : I c) (hc' : I c')
    (hperm : rules.Perm rules') (hapart : Apart rules doc) :
    (applyAll f rules (doc, c)).1 = .ok () ↔ (applyAll f rules' (doc, c')).1 = .ok () := by
  constructor
  · intro h
    obtain ⟨⟨doc', d⟩, hrun⟩ := Action.exists_state_of_fst h
    obtain ⟨doc'', d', hrun', -⟩ := hf.reorder hc hc' hperm hapart hrun
    rw [hrun']
  · intro h
    obtain ⟨⟨doc', d⟩, hrun⟩ := Action.exists_state_of_fst h
    obtain ⟨doc'', d', hrun', -⟩ :=
      hf.reorder hc' hc hperm.symm (apart_of_perm hapart hperm) hrun
    rw [hrun']

end FieldRule

end FieldSeal

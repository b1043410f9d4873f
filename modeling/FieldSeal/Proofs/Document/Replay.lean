import FieldSeal.Proofs.Document.Effect

/-!
# What rules did is what they do

**Theorem (`applyAll_eq_iff`).** The outcomes that a run of rules may have, by what it did, are
exactly one: what the run gives. So calls of the codec that fit each other and the document, found in
whatever way, are those of the run.

**Replay.** The calls that were performed on a filling are performed again by visiting their places
(`touchAll_of_performed`), and a call that fails ends the visits (`touchAll_of_failed`). What calls
make of a document is a filling of it (`Effect.fill_texts`).
-/

namespace FieldSeal

open Document

namespace FieldRule

variable {f : MaskRule → String → Codec.Step String} {calls : List Call} {c c' d : Codec}
  {texts texts' : Place → String} {doc doc' : Json} {rules : List FieldRule}

/-! ## Replaying calls -/

theorem leads_cons_iff {text new : String} {call : Call} :
    Leads text (call :: calls) new ↔ call.old = text ∧ Leads call.new calls new := by
  constructor
  · rintro (_ | rest)
    exact ⟨rfl, rest⟩
  · rintro ⟨rfl, rest⟩
    exact .cons rest

/-- The first call was made on the text that stood at its place, the others on what it left. -/
theorem performed_cons_iff {call : Call} :
    Performed f texts c (call :: calls) texts' c' ↔
      call.old = texts call.place ∧ ∃ d, f call.rule call.old c = (.ok call.new, d) ∧
        Performed f (Function.update texts call.place call.new) d calls texts' c' := by
  constructor
  · rintro ⟨hmade, hleads⟩
    have hhere := hleads call.place
    rw [callsAt_cons_self, leads_cons_iff] at hhere
    obtain ⟨hold, hlater⟩ := hhere
    cases hmade with
    | cons hcall hrest =>
      refine ⟨hold, _, hcall, hrest, fun place => ?_⟩
      by_cases hplace : call.place = place
      · subst hplace
        rwa [Function.update_self]
      · rw [Function.update_of_ne (Ne.symm hplace), ← callsAt_cons_of_ne hplace]
        exact hleads place
  · rintro ⟨hold, d, hcall, hrest⟩
    obtain ⟨rule, place, old, new⟩ := call
    obtain rfl : old = texts place := hold
    exact hrest.cons (v := (rule, place)) hcall

/-- The calls that were performed are performed again. -/
theorem touchAll_of_performed (h : Performed f texts c calls texts' c') :
    touchAll f (calls.map Call.visit) (texts, c) = (.ok (), texts', c') := by
  induction calls generalizing texts c with
  | nil =>
    cases h.made
    have htexts : texts' = texts := funext fun place => (h.leads place).eq_of_nil
    rw [htexts]
    rfl
  | cons call calls ih =>
    obtain ⟨hold, d, hcall, hrest⟩ := performed_cons_iff.1 h
    rw [hold] at hcall
    rw [List.map_cons, touchAll_cons_of_ok (v := call.visit) hcall]
    exact ih hrest

/-- A call that fails ends the visits. -/
theorem touchAll_of_failed {v : MaskRule × Place} {e : FieldError}
    (h : Performed f texts c calls texts' d) (hfailed : f v.1 (texts' v.2) d = (.error e, c'))
    (rest : List (MaskRule × Place)) :
    touchAll f (calls.map Call.visit ++ v :: rest) (texts, c) = (.error e, texts', c') := by
  rw [touchAll_append, Action.bind_of_ok (touchAll_of_performed h)]
  exact Action.each_cons_of_error (f := fun v : MaskRule × Place => touch (f v.1) v.2)
    (touch_of_error hfailed) rest

/-! ## Replaying effects -/

/-- What becomes of a document is a filling of it. -/
theorem Effect.fill_texts (h : Effect f doc c calls doc' c') : doc.fill doc'.texts = doc' := by
  refine Json.eq_of_node?_of_textAt?
    (fun place => (Json.node?_fill _ doc place).trans (h.shape place).symm) fun place => ?_
  rw [Json.textAt?_fill]
  cases htext : doc.textAt? place with
  | none => rw [h.textAt?_eq_none htext, Option.map_none]
  | some text =>
    obtain ⟨new, hnew, -⟩ := h.texts place text htext
    rw [hnew, Option.map_some, Json.texts_of_textAt? hnew]

/-- Calls on the texts of a document have their effect on its filling. -/
theorem Effect.performed (h : Effect f doc c calls doc' c')
    (hplaces : ∀ call ∈ calls, ∃ text, doc.textAt? call.place = some text) :
    Performed f doc.texts c calls doc'.texts c' := by
  refine ⟨h.made, fun place => ?_⟩
  cases htext : doc.textAt? place with
  | some text =>
    obtain ⟨new, hnew, hleads⟩ := h.texts place text htext
    rwa [Json.texts_of_textAt? htext, Json.texts_of_textAt? hnew]
  | none =>
    have hnone : ∀ call ∈ calls, call.place ≠ place := by
      rintro call hcall rfl
      obtain ⟨text, hsome⟩ := hplaces call hcall
      cases htext.symm.trans hsome
    rw [callsAt_eq_nil hnone, Json.texts, Json.texts, htext, h.textAt?_eq_none htext]
    exact .nil

theorem exists_text_of_visit {call : Call} (h : call.visit ∈ visitsOf rules doc) :
    ∃ text, doc.textAt? call.place = some text := by
  obtain ⟨field, -, hfield⟩ := List.mem_flatMap.1 h
  exact exists_text_of_mem_visits hfield

/-- A run of rules gives the outcome that fits what was done. -/
theorem applyAll_of_outcome {outcome : Except FieldError Unit × Json × Codec}
    (h : Outcome f rules doc c outcome) : applyAll f rules (doc, c) = outcome := by
  have happly := applyAll_fill f rules doc doc.texts c
  rw [Json.fill_texts] at happly
  rw [happly]
  cases h with
  | completed effect every _ =>
    have hperformed := effect.performed fun call hcall =>
      exists_text_of_visit (every ▸ List.mem_map_of_mem hcall)
    rw [← every, touchAll_of_performed hperformed, effect.fill_texts]
  | @stopped calls v rest doc' d c' e text effect before here failed =>
    have hperformed := effect.performed fun call hcall =>
      exists_text_of_visit (before ▸ List.mem_append_left _ (List.mem_map_of_mem hcall))
    rw [← Json.texts_of_textAt? here] at failed
    rw [before, touchAll_of_failed hperformed failed rest, effect.fill_texts]

/-- **What a run gives and what it did determine each other.** -/
theorem applyAll_eq_iff {outcome : Except FieldError Unit × Json × Codec} :
    applyAll f rules (doc, c) = outcome ↔ Outcome f rules doc c outcome := by
  refine ⟨?_, applyAll_of_outcome⟩
  rintro rfl
  exact outcome_applyAll f rules doc c

end FieldRule

end FieldSeal

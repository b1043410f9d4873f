import FieldSeal.Proofs.Masker
import FieldSeal.Proofs.Session.Spending
import Mathlib.Data.List.Dedup

/-!
# Kept patterns are for speed alone

**Theorem (`kept_patterns_change_no_answer`).** A masker is called in any order, directly or through
codecs. Every call answers what it would answer if no pattern was kept. What is kept in the end are the
patterns that were asked for and could be compiled, each of them once.

**Calls** (`Call.consulted?`). Each call asks for one pattern at most. Which one, if any, depends on the
call alone: no pattern is asked for if the rule has none, if the value need not match it, or if the value
is blank, empty or looks like an envelope. What a call does to the masker is no more than asking for
this pattern (`Call.masker_run`).

**The invariant** (`KeepsAll`). A masker that was asked for some texts keeps the patterns of those that
can be compiled, and nothing else. It says more than that the masker is faithful, which is all that the
answers depend on (`Call.answer_run`).
-/

namespace FieldSeal

/-- The text of the pattern that values are compared with, unless the rule accepts them all. -/
def MaskRule.consulted? (rule : MaskRule) : Option String :=
  if rule.pattern.isEmpty then none else some rule.pattern

namespace Masker

variable {m : Masker} {text value : String} {rule : MaskRule} {α : Type}

/-! ## Asking for patterns -/

/-- A text that cannot be compiled is refused each time, and nothing is kept. -/
theorem pattern_of_invalid (hm : m.Faithful) (h : Pattern.compile? text = none) :
    pattern text m = (.error .invalidPattern, m) := by
  have hlookup : m.patterns.lookup text = none := by
    rw [Option.eq_none_iff_forall_ne_some]
    intro p hp
    rw [hm text p hp] at h
    cases h
  rw [pattern, hlookup, h]

/-- The masker once it was asked for a pattern, if it was. -/
def consult (text? : Option String) (m : Masker) : Masker :=
  match text? with
  | some text => (pattern text m).2
  | none => m

theorem accepts_of_consulted (h : rule.consulted? = some text) (value : String) :
    accepts rule value = pattern text >>= fun p => pure (p.isMatch value) := by
  unfold MaskRule.consulted? at h
  split at h
  · cases h
  · next hempty =>
    cases h
    rw [accepts, if_neg hempty]

theorem accepts_of_not_consulted (h : rule.consulted? = none) (value : String) (m : Masker) :
    accepts rule value m = (.ok true, m) := by
  unfold MaskRule.consulted? at h
  split at h
  · next hempty =>
    rw [accepts, if_pos hempty]
    rfl
  · cases h

theorem masker_accepts (rule : MaskRule) (value : String) (m : Masker) :
    (accepts rule value m).2 = consult rule.consulted? m := by
  cases h : rule.consulted? with
  | none => rw [accepts_of_not_consulted h, consult]
  | some text =>
    rw [accepts_of_consulted h, Action.bind_apply, consult]
    rcases pattern text m with ⟨result, after⟩
    cases result <;> rfl

theorem accepts_of_invalid (hm : m.Faithful) (h : rule.consulted? = some text)
    (hinvalid : Pattern.compile? text = none) (value : String) :
    accepts rule value m = (.error .invalidPattern, m) := by
  rw [accepts_of_consulted h, Action.bind_of_error (pattern_of_invalid hm hinvalid)]

/-- The text of the pattern with which a value is compared before it is masked. -/
def maskConsulted? (rule : MaskRule) (value : String) : Option String :=
  if rule.mustMatch && !Unicode.isBlankText value then rule.consulted? else none

theorem maskConsulted?_of_isEmpty (h : value.isEmpty) (rule : MaskRule) :
    maskConsulted? rule value = none := by
  have hblank : Unicode.isBlankText value := by
    rw [String.isEmpty_iff.1 h]
    decide
  rw [maskConsulted?, hblank, Bool.not_true, Bool.and_false]
  rfl

theorem masker_mask (rule : MaskRule) (value : String) (m : Masker) :
    (mask rule value m).2 = consult (maskConsulted? rule value) m := by
  by_cases hblank : Unicode.isBlankText value
  · rw [mask_of_isBlankText hblank, maskConsulted?, hblank, Bool.not_true, Bool.and_false]
    rfl
  · rw [mask_apply hblank, maskConsulted?, Bool.eq_false_iff.2 hblank, Bool.not_false, Bool.and_true]
    by_cases hmust : rule.mustMatch
    · simp only [if_pos hmust]
      exact masker_accepts rule value m
    · simp only [if_neg hmust]
      rfl

theorem mask_of_invalid (hm : m.Faithful) (h : maskConsulted? rule value = some text)
    (hinvalid : Pattern.compile? text = none) :
    mask rule value m = (.error .invalidPattern, m) := by
  unfold maskConsulted? at h
  split at h
  · next hvalidates =>
    obtain ⟨hmust, hblank⟩ : rule.mustMatch ∧ ¬Unicode.isBlankText value := by
      simpa using hvalidates
    rw [mask_apply hblank, if_pos hmust, accepts_of_invalid hm h hinvalid]
    rfl
  · cases h

/-! ## What is kept -/

/-- The masker keeps the patterns of those texts that can be compiled, each of them once. -/
structure KeepsAll (texts : List String) (m : Masker) : Prop where
  nodup : (m.patterns.map Prod.fst).Nodup
  mem_iff : ∀ text p,
    (text, p) ∈ m.patterns ↔ text ∈ texts ∧ Pattern.compile? text = some p

theorem keepsAll_empty : KeepsAll [] {} := ⟨.nil, fun _ _ => ⟨nofun, nofun⟩⟩

namespace KeepsAll

variable {texts : List String}

theorem faithful (h : KeepsAll texts m) : m.Faithful := by
  intro text p hp
  obtain ⟨before, after, hpatterns, -⟩ := List.lookup_eq_some_iff.1 hp
  have hmem : (text, p) ∈ m.patterns := hpatterns ▸ List.mem_append_right _ List.mem_cons_self
  exact ((h.mem_iff text p).1 hmem).2

/-- A text that is asked for is kept from then on, if it can be compiled. -/
theorem pattern (h : KeepsAll texts m) (text : String) :
    KeepsAll (text :: texts) (pattern text m).2 := by
  cases hlookup : m.patterns.lookup text with
  | some p =>
    -- The text was asked for before.
    obtain ⟨before, after, hpatterns, -⟩ := List.lookup_eq_some_iff.1 hlookup
    have hmem : (text, p) ∈ m.patterns := hpatterns ▸ List.mem_append_right _ List.mem_cons_self
    have hasked : text ∈ texts := ((h.mem_iff text p).1 hmem).1
    rw [Masker.pattern, hlookup]
    refine ⟨h.nodup, fun other q => ?_⟩
    rw [h.mem_iff, List.mem_cons]
    exact and_congr_left' ⟨.inr, fun hor => hor.elim (fun heq => heq ▸ hasked) id⟩
  | none =>
    cases hcompile : Pattern.compile? text with
    | some p =>
      have hnew : text ∉ m.patterns.map Prod.fst := by
        intro hmem
        obtain ⟨kept, hkept, rfl⟩ := List.mem_map.1 hmem
        simpa using List.lookup_eq_none_iff.1 hlookup kept hkept
      rw [Masker.pattern, hlookup, hcompile]
      refine ⟨List.nodup_cons.2 ⟨hnew, h.nodup⟩, fun other q => ?_⟩
      show (other, q) ∈ (text, p) :: m.patterns ↔ _
      rw [List.mem_cons, h.mem_iff, List.mem_cons, Prod.mk.injEq]
      constructor
      · rintro (⟨rfl, rfl⟩ | ⟨hasked, hq⟩)
        · exact ⟨.inl rfl, hcompile⟩
        · exact ⟨.inr hasked, hq⟩
      · rintro ⟨rfl | hasked, hq⟩
        · exact .inl ⟨rfl, Option.some.inj (hq.symm.trans hcompile)⟩
        · exact .inr ⟨hasked, hq⟩
    | none =>
      rw [pattern_of_invalid h.faithful hcompile]
      refine ⟨h.nodup, fun other q => ?_⟩
      rw [h.mem_iff, List.mem_cons]
      refine and_congr_left fun hq => ⟨.inr, ?_⟩
      rintro (rfl | hasked)
      · rw [hcompile] at hq
        cases hq
      · exact hasked

theorem consult (h : KeepsAll texts m) (text? : Option String) :
    KeepsAll (text?.toList ++ texts) (consult text? m) := by
  cases text? with
  | none => exact h
  | some text => exact h.pattern text

/-- As many patterns are kept as there are different texts that can be compiled. -/
theorem size_eq (h : KeepsAll texts m) :
    m.size = (texts.filter fun text => (Pattern.compile? text).isSome).dedup.length := by
  have hperm : (m.patterns.map Prod.fst).Perm
      (texts.filter fun text => (Pattern.compile? text).isSome).dedup := by
    rw [List.perm_ext_iff_of_nodup h.nodup (List.nodup_dedup _)]
    intro text
    rw [List.mem_dedup, List.mem_filter, Option.isSome_iff_exists, List.mem_map]
    constructor
    · rintro ⟨⟨_, p⟩, hmem, rfl⟩
      obtain ⟨hasked, hp⟩ := (h.mem_iff _ _).1 hmem
      exact ⟨hasked, p, hp⟩
    · rintro ⟨hasked, p, hp⟩
      exact ⟨(text, p), (h.mem_iff _ _).2 ⟨hasked, hp⟩, rfl⟩
  rw [size, ← hperm.length_eq, List.length_map]

end KeepsAll

/-! ## Calls -/

/-- One call that may ask for a pattern; the index is the type of its answer. A call through a codec is
made while its service is in some state, and its answer tells the state of the service after it. -/
inductive Call : Type → Type where
  | pattern (text : String) : Call (Except MaskError Pattern)
  | accepts (rule : MaskRule) (value : String) : Call (Except MaskError Bool)
  | mask (rule : MaskRule) (value : String) : Call (Except MaskError String)
  | protect (service : Service) (rule : MaskRule) (value : String) :
    Call (Except FieldError String × Service)
  | reveal (service : Service) (rule : MaskRule) (text : String) :
    Call (Except FieldError String × Service)

namespace Call

/-- Perform an action of the codec with this masker and a service. -/
def through (service : Service) (a : Codec.Step α) (m : Masker) :
    (Except FieldError α × Service) × Masker :=
  match a { service, masker := m } with
  | (result, c) => ((result, c.service), c.masker)

def run : {α : Type} → Call α → Masker → α × Masker
  | _, pattern text => Masker.pattern text
  | _, accepts rule value => Masker.accepts rule value
  | _, mask rule value => Masker.mask rule value
  | _, protect service rule value => through service (Codec.protect rule value)
  | _, reveal service rule text => through service (Codec.reveal rule text)

/-- The text of the pattern for which the call asks, if it asks for one. -/
def consulted? : {α : Type} → Call α → Option String
  | _, pattern text => some text
  | _, accepts rule _ => rule.consulted?
  | _, mask rule value | _, protect _ rule value => maskConsulted? rule value
  | _, reveal _ rule text =>
    if text.isEmpty || Envelope.isEnvelope text then none else rule.consulted?

/-- The answer that the pattern of the call is none. -/
def refusal : {α : Type} → Call α → α
  | _, pattern _ | _, accepts _ _ | _, mask _ _ => .error .invalidPattern
  | _, protect service _ _ | _, reveal service _ _ => (.error (.mask .invalidPattern), service)

variable {service : Service}

/-- What becomes of a value once it is masked is up to the service. -/
def sealMasked (service : Service) (value : String) :
    Except MaskError String → Except FieldError String × Service
  | .ok shown => ((Service.encryptWithMask value shown service).1.mapError .envelope,
    (Service.encryptWithMask value shown service).2)
  | .error cause => (.error (.mask cause), service)

theorem through_protect (h : ¬value.isEmpty) (service : Service) (rule : MaskRule) (m : Masker) :
    through service (Codec.protect rule value) m =
      (sealMasked service value (Masker.mask rule value m).1, (Masker.mask rule value m).2) := by
  rw [through, Operation.protect_apply h]
  rcases Masker.mask rule value m with ⟨result, after⟩
  cases result with
  | error cause => rfl
  | ok shown =>
    dsimp only
    rw [Codec.onService, Action.mapError_apply, Action.on_apply]
    rfl

theorem through_protect_of_isEmpty (h : value.isEmpty) (service : Service) (rule : MaskRule)
    (m : Masker) : through service (Codec.protect rule value) m = ((.ok "", service), m) := by
  rw [through, Codec.protect_of_isEmpty h]

/-- What is empty or looks like an envelope is revealed without the masker. -/
theorem exists_through_reveal_of_envelope {text : String}
    (h : text.isEmpty || Envelope.isEnvelope text) (service : Service) (rule : MaskRule) :
    ∃ answer, ∀ m, through service (Codec.reveal rule text) m = (answer, m) := by
  by_cases hempty : text.isEmpty
  · refine ⟨(.ok "", service), fun m => ?_⟩
    rw [through, Codec.reveal, if_pos hempty]
    rfl
  · have henvelope : Envelope.isEnvelope text := by simpa [hempty] using h
    refine ⟨((Service.decrypt text service).1.mapError .envelope, (Service.decrypt text service).2),
      fun m => ?_⟩
    rw [through, Codec.reveal_of_isEnvelope henvelope, Codec.onService, Action.mapError_apply,
      Action.on_apply]

/-- Any other text is revealed, or not, as the masker accepts it. -/
theorem through_reveal_of_plain {text : String} (h : ¬(text.isEmpty || Envelope.isEnvelope text))
    (service : Service) (rule : MaskRule) (m : Masker) :
    through service (Codec.reveal rule text) m =
      (((Masker.accepts rule text m).1.mapError .mask >>= fun accepted =>
        if accepted then .ok text else .error (.mask (.rejected rule.kind)), service),
        (Masker.accepts rule text m).2) := by
  obtain ⟨hempty, henvelope⟩ : ¬text.isEmpty ∧ ¬Envelope.isEnvelope text := by simpa using h
  rw [through, Codec.reveal, if_neg hempty, if_neg henvelope, Action.bind_apply, Codec.onMasker,
    Action.mapError_apply, Action.on_apply]
  rcases Masker.accepts rule text m with ⟨result, after⟩
  cases result with
  | error cause => rfl
  | ok accepted => cases accepted <;> rfl

/-- What a call does to the masker is to ask for one pattern, if any. -/
theorem masker_run (call : Call α) (m : Masker) :
    (call.run m).2 = consult call.consulted? m := by
  cases call with
  | pattern text => rfl
  | accepts rule value => exact masker_accepts rule value m
  | mask rule value => exact masker_mask rule value m
  | protect service rule value =>
    rw [run, consulted?]
    by_cases h : value.isEmpty
    · rw [through_protect_of_isEmpty h, maskConsulted?_of_isEmpty h, consult]
    · rw [through_protect h]
      exact masker_mask rule value m
  | reveal service rule text =>
    rw [run, consulted?]
    by_cases h : text.isEmpty || Envelope.isEnvelope text
    · obtain ⟨answer, hrun⟩ := exists_through_reveal_of_envelope h service rule
      rw [hrun, if_pos h, consult]
    · rw [through_reveal_of_plain h, if_neg h]
      exact masker_accepts rule text m

/-- The past of a masker has no part in its answers. -/
theorem answer_run {m' : Masker} (hm : m.Faithful) (hm' : m'.Faithful) (call : Call α) :
    (call.run m).1 = (call.run m').1 := by
  cases call with
  | pattern text => exact (pattern_apply hm text).1.trans (pattern_apply hm' text).1.symm
  | accepts rule value => exact accepts_congr hm hm' rule value
  | mask rule value => exact mask_congr hm hm' rule value
  | protect service rule value =>
    rw [run]
    by_cases h : value.isEmpty
    · rw [through_protect_of_isEmpty h, through_protect_of_isEmpty h]
    · rw [through_protect h, through_protect h, mask_congr hm hm']
  | reveal service rule text =>
    rw [run]
    by_cases h : text.isEmpty || Envelope.isEnvelope text
    · obtain ⟨answer, hrun⟩ := exists_through_reveal_of_envelope h service rule
      rw [hrun, hrun]
    · rw [through_reveal_of_plain h, through_reveal_of_plain h, accepts_congr hm hm']

/-- A call for a text that cannot be compiled is refused, and leaves the masker as it was. -/
theorem run_of_invalid (hm : m.Faithful) {call : Call α} (h : call.consulted? = some text)
    (hinvalid : Pattern.compile? text = none) : call.run m = (call.refusal, m) := by
  cases call with
  | pattern other =>
    cases h
    exact pattern_of_invalid hm hinvalid
  | accepts rule value => exact accepts_of_invalid hm h hinvalid value
  | mask rule value => exact mask_of_invalid hm h hinvalid
  | protect service rule value =>
    have hvalue : ¬value.isEmpty := by
      intro hempty
      rw [consulted?, maskConsulted?_of_isEmpty hempty] at h
      cases h
    rw [run, through_protect hvalue, mask_of_invalid hm h hinvalid]
    rfl
  | reveal service rule other =>
    rw [consulted?] at h
    split at h
    · cases h
    · next hplain =>
      rw [run, through_reveal_of_plain hplain, accepts_of_invalid hm h hinvalid]
      rfl

end Call

/-- Calls in the order in which they are made. -/
abbrev Calls := List ((α : Type) × Call α)

namespace Calls

/-- The masker after some calls. -/
def run : Calls → Masker → Masker
  | [], m => m
  | ⟨_, call⟩ :: calls, m => run calls (call.run m).2

/-- The texts of the patterns for which the calls ask. -/
def consulted (calls : Calls) : List String := calls.filterMap fun step => step.2.consulted?

theorem run_concat (calls : Calls) (step : (α : Type) × Call α) (m : Masker) :
    run (calls ++ [step]) m = (step.2.run (run calls m)).2 := by
  induction calls generalizing m with
  | nil => rfl
  | cons first calls ih => exact ih _

/-- By induction on the calls, the last of them at the end. -/
theorem keepsAll_run (calls : Calls) : KeepsAll calls.consulted.reverse (calls.run {}) := by
  induction calls using List.reverseRecOn with
  | nil => exact keepsAll_empty
  | append_singleton calls step ih =>
    have hstep := ih.consult step.2.consulted?
    have hasked : (consulted (calls ++ [step])).reverse =
        step.2.consulted?.toList ++ (consulted calls).reverse := by
      simp only [consulted, List.filterMap_append, List.reverse_append]
      cases h : step.2.consulted? <;> simp [h]
    rw [run_concat, Call.masker_run, hasked]
    exact hstep

end Calls

/-- **Keeping patterns changes no answer.** A new masker is called in any order, itself or through
codecs with any services.

- Each later call answers what it would answer to a masker that keeps no pattern.
- What is kept are the patterns for which calls have asked and which can be compiled, under different
  texts, so their number is that of these texts.
- A call that asks for a pattern which cannot be compiled is refused whenever it is made, and then
  nothing is kept. -/
theorem kept_patterns_change_no_answer (calls : Calls) :
    let m := calls.run {}
    (∀ {α : Type} (call : Call α), (call.run m).1 = (call.run {}).1) ∧
    (m.patterns.map Prod.fst).Nodup ∧
    (∀ text p, (text, p) ∈ m.patterns ↔
      (∃ step ∈ calls, step.2.consulted? = some text) ∧ Pattern.compile? text = some p) ∧
    m.size = (calls.consulted.filter fun text => (Pattern.compile? text).isSome).dedup.length ∧
    ∀ {α : Type} (call : Call α) text, call.consulted? = some text →
      Pattern.compile? text = none → call.run m = (call.refusal, m) := by
  intro m
  have hkeeps : KeepsAll calls.consulted.reverse m := calls.keepsAll_run
  have hfaithful := hkeeps.faithful
  refine ⟨fun call => call.answer_run hfaithful faithful_empty, hkeeps.nodup, fun text p => ?_, ?_,
    fun call text h hinvalid => call.run_of_invalid hfaithful h hinvalid⟩
  · rw [hkeeps.mem_iff, List.mem_reverse, Calls.consulted, List.mem_filterMap]
  · rw [hkeeps.size_eq]
    refine List.Perm.length_eq (List.Perm.dedup ?_)
    exact (List.reverse_perm _).filter _

/-- A pattern that cannot be compiled is refused again after other calls. Of these, two have asked for
the same pattern, and one has asked for none because the value is blank. -/
theorem broken_pattern_is_refused_again :
    let broken : Call _ := .mask (.custom 1 1 "(" true) "abc"
    let calls : Calls := [⟨_, broken⟩, ⟨_, .pattern "a"⟩, ⟨_, .accepts (.custom 0 0 "a" true) "b"⟩,
      ⟨_, .mask (.custom 0 0 "b" true) " "⟩]
    broken.consulted? = some "(" ∧ Pattern.compile? "(" = none ∧ (calls.run {}).size = 1 ∧
      broken.run (calls.run {}) = (.error .invalidPattern, calls.run {}) := by
  intro broken calls
  have hconsulted : broken.consulted? = some "(" := by decide +kernel
  have hinvalid : Pattern.compile? "(" = none := Option.isNone_iff_eq_none.1 (by decide +kernel)
  obtain ⟨-, -, -, hsize, hrefused⟩ := kept_patterns_change_no_answer calls
  refine ⟨hconsulted, hinvalid, ?_, hrefused broken "(" hconsulted hinvalid⟩
  rw [hsize]
  decide +kernel

end Masker

end FieldSeal

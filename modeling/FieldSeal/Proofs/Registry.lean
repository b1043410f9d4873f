import FieldSeal.Proofs.Action
import FieldSeal.Registry
import FieldSeal.Sealer.Plain
import Mathlib.Data.List.Induction

/-!
# Registries file sealers under their suites

**Theorem (`registry_answers_from_last_registrations`).** After any registrations, a registry has for
each suite the sealer that was registered last for it. Each registration answers with the sealer that
it displaces, and a text finds the sealer of the suite that it names.

**The invariant** (`Registry.Filed`). Whatever was registered, and in whatever order, a registry has
under each suite only a sealer of that suite. A sealer supports the texts that name its suite and no
others, so at most one of the registered sealers supports a text.

**Texts** (`firstOf_eq`). Searching the sealers for one that supports a text is therefore the same as
reading the suite that the text names and looking it up. The order of the search has no part in it.

**Histories** (`sealer?_ofSealers`). By induction on the registrations, the last of them at the end.
-/

namespace FieldSeal

/-- Suites in the order in which they are listed. -/
instance : LT Suite := ⟨fun suite other => suite.ctorIdx < other.ctorIdx⟩

theorem Suite.pairwise_lt_all : Suite.all.Pairwise (· < ·) := by
  simp only [Suite.all, List.pairwise_pair]
  exact Nat.zero_lt_one

theorem Sealer.supports_iff {s : Sealer} {text : String} :
    s.supports text ↔ Envelope.peek text = .ok s.suite := by
  unfold supports
  cases Envelope.peek text with
  | error cause => simp
  | ok suite => simp

namespace Registry

variable {r : Registry} {s : Sealer} {suite : Suite} {text : String}

/-- Every sealer is filed under its own suite. -/
def Filed (r : Registry) : Prop := ∀ suite s, r.sealer? suite = some s → s.suite = suite

theorem filed_empty : Registry.empty.Filed := by
  intro suite s h
  cases h

theorem Filed.register (h : r.Filed) (s : Sealer) : (r.register s).Filed := by
  intro suite other hother
  by_cases hsuite : suite = s.suite
  · subst hsuite
    rw [sealer?_register_self, Option.some.injEq] at hother
    rw [← hother]
  · rw [sealer?_register_of_ne r hsuite] at hother
    exact h suite other hother

/-- The registry into which sealers were put one after the other. -/
def ofSealers (sealers : List Sealer) : Registry := sealers.foldl (fun r s => r.register s) .empty

theorem filed_ofSealers (sealers : List Sealer) : (ofSealers sealers).Filed := by
  have hfold : ∀ r : Registry, r.Filed → (sealers.foldl (fun r s => r.register s) r).Filed := by
    induction sealers with
    | nil => exact fun r h => h
    | cons s sealers ih => exact fun r h => ih _ (h.register s)
  exact hfold .empty filed_empty

theorem get_eq_ok_iff : r.get suite = .ok s ↔ r.sealer? suite = some s := by
  unfold get
  cases r.sealer? suite with
  | none => simp
  | some other => simp

/-! ## Texts -/

theorem mem_sealers_iff : s ∈ r.sealers ↔ ∃ suite, r.sealer? suite = some s := by
  unfold sealers
  rw [List.mem_filterMap]
  refine ⟨?_, ?_⟩
  · rintro ⟨suite, -, h⟩
    exact ⟨suite, h⟩
  · rintro ⟨suite, h⟩
    exact ⟨suite, suite.mem_all, h⟩

/-- Of the registered sealers, only the one that is filed under a suite belongs to it. -/
theorem Filed.eq_of_mem_sealers (h : r.Filed) (hs : s ∈ r.sealers) :
    r.sealer? s.suite = some s := by
  obtain ⟨suite, hsuite⟩ := mem_sealers_iff.1 hs
  rwa [h suite s hsuite]

/-- The first of some sealers that supports a text; without one, the reason. -/
def firstOf (scan : List Sealer) (text : String) : Except EnvelopeError Sealer :=
  match scan.find? (·.supports text) with
  | some s => .ok s
  | none => (Envelope.peek text).bind fun suite => .error (.unsupported suite)

theorem forEnvelope_eq_firstOf (r : Registry) (text : String) :
    r.forEnvelope text = firstOf r.sealers text := rfl

/-- In whatever order the registered sealers are searched, the one that is found is filed under the
suite that the text names. -/
theorem firstOf_eq (h : r.Filed) {scan : List Sealer} (hscan : scan.Perm r.sealers)
    (text : String) : firstOf scan text = Envelope.peek text >>= r.get := by
  unfold firstOf
  cases hfind : scan.find? (·.supports text) with
  | some s =>
    have hpeek := Sealer.supports_iff.1 (List.find?_some (p := fun s : Sealer => s.supports text) hfind)
    have hfiled := h.eq_of_mem_sealers (hscan.mem_iff.1 (List.mem_of_find?_eq_some hfind))
    rw [hpeek]
    exact (get_eq_ok_iff.2 hfiled).symm
  | none =>
    cases hpeek : Envelope.peek text with
    | error cause => rfl
    | ok suite =>
      -- A sealer that is filed under the suite would have been found.
      have hmissing : r.sealer? suite = none := by
        rw [Option.eq_none_iff_forall_ne_some]
        intro s hs
        refine List.find?_eq_none.1 hfind s (hscan.mem_iff.2 (mem_sealers_iff.2 ⟨suite, hs⟩)) ?_
        rw [Sealer.supports_iff, hpeek, h suite s hs]
      show _ = r.get suite
      rw [get, hmissing]
      rfl

/-- **The sealer for a text** is the one that is filed under the suite that the text names. -/
theorem forEnvelope_eq (h : r.Filed) (text : String) :
    r.forEnvelope text = Envelope.peek text >>= r.get := by
  rw [forEnvelope_eq_firstOf, firstOf_eq h (.refl _)]

theorem forEnvelope_of_peek (h : r.Filed) (hpeek : Envelope.peek text = .ok suite) :
    r.forEnvelope text = r.get suite := by
  rw [forEnvelope_eq h, hpeek]
  rfl

/-! ## Histories -/

/-- The last of some sealers that belongs to a suite. -/
def lastOf (suite : Suite) (sealers : List Sealer) : Option Sealer :=
  (sealers.filter (·.suite = suite)).getLast?

theorem lastOf_concat (suite : Suite) (sealers : List Sealer) (s : Sealer) :
    lastOf suite (sealers ++ [s]) = if suite = s.suite then some s else lastOf suite sealers := by
  rw [lastOf, List.filter_append]
  by_cases hsuite : suite = s.suite
  · simp [hsuite]
  · have hnone : [s].filter (·.suite = suite) = [] := by simp [Ne.symm hsuite]
    rw [if_neg hsuite, hnone, List.append_nil, lastOf]

theorem isSome_lastOf_iff {sealers : List Sealer} :
    (lastOf suite sealers).isSome ↔ ∃ s ∈ sealers, s.suite = suite := by
  rw [lastOf, List.getLast?_isSome, ne_eq, List.filter_eq_nil_iff]
  simp

theorem ofSealers_concat (sealers : List Sealer) (s : Sealer) :
    ofSealers (sealers ++ [s]) = (ofSealers sealers).register s := by
  rw [ofSealers, List.foldl_append]
  rfl

/-- Under each suite is the sealer that was registered last for it. -/
theorem sealer?_ofSealers (sealers : List Sealer) (suite : Suite) :
    (ofSealers sealers).sealer? suite = lastOf suite sealers := by
  induction sealers using List.reverseRecOn with
  | nil => rfl
  | append_singleton sealers s ih =>
    rw [ofSealers_concat, lastOf_concat, ← ih]
    rfl

/-- Put sealers into a registry one after the other. The answers are the sealers that they displace. -/
def putAll : List Sealer → Registry × Host → List (Option Sealer) × Registry × Host
  | [], state => ([], state)
  | s :: sealers, state =>
    ((put s state).1 :: (putAll sealers (put s state).2).1, (putAll sealers (put s state).2).2)

variable {state : Registry × Host}

theorem registry_putAll (sealers : List Sealer) (state : Registry × Host) :
    (putAll sealers state).2.1 = sealers.foldl (fun r s => r.register s) state.1 := by
  induction sealers generalizing state with
  | nil => rfl
  | cons s sealers ih => exact ih (put s state).2

/-- A sealer answers with what the sealers in front of it have left for its suite. -/
theorem getElem?_putAll (before : List Sealer) (s : Sealer) (after : List Sealer)
    (state : Registry × Host) :
    (putAll (before ++ s :: after) state).1[before.length]? =
      some ((putAll before state).2.1.sealer? s.suite) := by
  induction before generalizing state with
  | nil => rfl
  | cons first before ih => exact ih (put first state).2

theorem mem_suites_iff : suite ∈ r.suites ↔ (r.sealer? suite).isSome := by
  simp [suites, suite.mem_all]

/-- **A registry answers from the last registrations.** Let sealers be registered in any order, starting
with an empty registry.

- The sealer for a suite is the last one that was registered for it; if there was none, the suite is
  not supported.
- Each registration answers with the sealer that was there for the suite, that is the last one before
  it, and leaves the other suite as it was.
- The supported suites are listed in ascending order, and they are those of the sealers that were
  registered.
- The sealer for a text is the one for the suite that the text names. If the text names none, or one
  that is not supported, the error is the same. The order in which the sealers are searched has no part
  in this. -/
theorem registry_answers_from_last_registrations (history : List Sealer) (host : Host) :
    let start : Registry × Host := (.empty, host)
    let answers := (putAll history start).1
    let r := (putAll history start).2.1
    (∀ suite, r.get suite =
      match lastOf suite history with
      | some s => .ok s
      | none => .error (.unsupported suite)) ∧
    (∀ before s after, history = before ++ s :: after →
      answers[before.length]? = some (lastOf s.suite before) ∧
      ∀ suite, suite ≠ s.suite →
        (putAll (before ++ [s]) start).2.1.get suite = (putAll before start).2.1.get suite) ∧
    r.suites.Pairwise (· < ·) ∧
    (∀ suite, suite ∈ r.suites ↔ ∃ s ∈ history, s.suite = suite) ∧
    ∀ text, r.forEnvelope text = Envelope.peek text >>= r.get ∧
      ∀ scan : List Sealer, scan.Perm r.sealers → firstOf scan text = Envelope.peek text >>= r.get := by
  intro start answers r
  have hregistry : ∀ sealers, (putAll sealers start).2.1 = ofSealers sealers := fun sealers =>
    registry_putAll sealers start
  have hr : r = ofSealers history := hregistry history
  have hfiled : r.Filed := hr ▸ filed_ofSealers history
  refine ⟨fun suite => ?_, ?_, Suite.pairwise_lt_all.filter _, fun suite => ?_,
    fun text => ⟨forEnvelope_eq hfiled text, fun scan hscan => firstOf_eq hfiled hscan text⟩⟩
  · have hlast : r.sealer? suite = lastOf suite history := by rw [hr, sealer?_ofSealers]
    rw [← hlast]
    rfl
  · rintro before s after rfl
    refine ⟨?_, fun suite hsuite => ?_⟩
    · rw [getElem?_putAll, hregistry, sealer?_ofSealers]
    · rw [hregistry, hregistry, ofSealers_concat, get, sealer?_register_of_ne _ hsuite, get]
  · rw [mem_suites_iff, hr, sealer?_ofSealers, isSome_lastOf_iff]

/-- A sealer that displaces the built-in one of its suite is found for the texts of this suite, also
when the sealers are searched from the end. -/
theorem replaced_sealer_is_found :
    let history : List Sealer := [.gm, .modern, .plain "b" .gm "b"]
    let start : Registry × Host := (.empty, ⟨.cycle [], []⟩)
    let r := (putAll history start).2.1
    (putAll history start).1[2]? = some (some .gm) ∧
      (putAll ([.gm, .modern] ++ [.plain "b" .gm "b"]) start).2.1.get .modern = .ok .modern ∧
      firstOf r.sealers.reverse "_mask|GM" = .ok (.plain "b" .gm "b") ∧
      firstOf r.sealers.reverse "_mask|XX" = .error (.unknownSuite "XX") := by
  intro history start r
  obtain ⟨hget, hanswers, -, -, htexts⟩ := registry_answers_from_last_registrations history
    ⟨.cycle [], []⟩
  obtain ⟨hdisplaced, hother⟩ := hanswers [.gm, .modern] (.plain "b" .gm "b") [] rfl
  have hgm : Envelope.peek "_mask|GM" = .ok .gm := by decide +kernel
  have hunknown : Envelope.peek "_mask|XX" = .error (.unknownSuite "XX") := by decide +kernel
  have hreverse := List.reverse_perm r.sealers
  refine ⟨hdisplaced, hother .modern (by decide), ?_, ?_⟩
  · rw [(htexts _).2 _ hreverse, hgm]
    exact hget .gm
  · rw [(htexts _).2 _ hreverse, hunknown]
    rfl

end Registry

end FieldSeal

import FieldSeal.Exchange.Failure
import FieldSeal.Proofs.Action
import Mathlib.Data.List.Forall2

/-!
# Specifications are resolved in order

**Rules** (`resolve_eq_ok_iff`). Specifications denote rules if and only if the kinds of all of them
are known, and then each denotes its own.

**Refusals** (`resolve_of_unknown`). Otherwise the first one with an unknown kind is named, whatever
stands behind it.
-/

namespace FieldSeal

/-! ## Kinds by name -/

theorem SensitiveKind.ofName?_eq_some_iff {name : String} {kind : SensitiveKind} :
    ofName? name = some kind ↔ kind.name = name := by
  constructor
  · intro h
    have hname := List.find?_some (p := fun other : SensitiveKind => other.name == name) h
    exact beq_iff_eq.1 hname
  · rintro rfl
    exact ofName?_name kind

theorem SensitiveKind.ofName_eq_ok_iff {name : String} {kind : SensitiveKind} :
    ofName name = .ok kind ↔ kind.name = name := by
  rw [← ofName?_eq_some_iff, ofName]
  cases ofName? name with
  | none => exact ⟨nofun, nofun⟩
  | some other => rw [Except.ok.injEq, Option.some.injEq]

theorem SensitiveKind.ofName_of_unknown {name : String}
    (h : ∀ kind : SensitiveKind, kind.name ≠ name) : ofName name = .error ⟨name⟩ := by
  have hnone : ofName? name = none := List.find?_eq_none.2 fun kind _ => by simpa using h kind
  rw [ofName, hnone]

namespace FieldSpec

variable {spec : FieldSpec} {field : FieldRule}

/-- Some kind of values has the name that the specification gives. -/
def Known (spec : FieldSpec) : Prop := ∃ kind : SensitiveKind, kind.name = spec.kind

/-- The field rule is that of the specification, under the kind which it names. -/
def Denotes (spec : FieldSpec) (field : FieldRule) : Prop :=
  ∃ kind : SensitiveKind, kind.name = spec.kind ∧ field = ⟨spec.path, spec.ruleOf kind⟩

theorem resolve_eq_ok_iff : spec.resolve = .ok field ↔ spec.Denotes field := by
  rw [resolve]
  constructor
  · intro h
    cases hkind : SensitiveKind.ofName spec.kind with
    | error e =>
      rw [hkind] at h
      cases h
    | ok kind =>
      rw [hkind] at h
      cases h
      exact ⟨kind, SensitiveKind.ofName_eq_ok_iff.1 hkind, rfl⟩
  · rintro ⟨kind, hkind, rfl⟩
    rw [SensitiveKind.ofName_eq_ok_iff.2 hkind]
    rfl

theorem resolve_of_unknown (h : ¬spec.Known) : spec.resolve = .error ⟨spec.kind⟩ := by
  rw [resolve, SensitiveKind.ofName_of_unknown fun kind hkind => h ⟨kind, hkind⟩]
  rfl

end FieldSpec

namespace Exchange

variable {specs : List FieldSpec} {rules : List FieldRule}

/-! ## Specifications in order -/

theorem resolve_cons_of_denotes {spec : FieldSpec} {field : FieldRule} (h : spec.Denotes field)
    (specs : List FieldSpec) :
    resolve (spec :: specs) = (resolve specs).map fun rules => field :: rules := by
  rw [resolve, List.mapM_cons, FieldSpec.resolve_eq_ok_iff.2 h]
  rfl

theorem resolve_cons_of_unknown {spec : FieldSpec} (h : ¬spec.Known) (specs : List FieldSpec) :
    resolve (spec :: specs) = .error (.ofUnknownKind ⟨spec.kind⟩) := by
  rw [resolve, List.mapM_cons, FieldSpec.resolve_of_unknown h]
  rfl

/-- The first unknown kind is refused. -/
theorem resolve_of_unknown {before : List FieldSpec} {spec : FieldSpec}
    (hbefore : ∀ earlier ∈ before, earlier.Known) (hspec : ¬spec.Known) (after : List FieldSpec) :
    resolve (before ++ spec :: after) =
      .error (.badRequest ("unknown sensitive type: " ++ spec.kind)) := by
  induction before with
  | nil => exact resolve_cons_of_unknown hspec after
  | cons earlier before ih =>
    obtain ⟨kind, hkind⟩ := hbefore earlier List.mem_cons_self
    rw [List.cons_append, resolve_cons_of_denotes ⟨kind, hkind, rfl⟩,
      ih fun other hother => hbefore other (List.mem_cons_of_mem _ hother)]
    rfl

/-- Known kinds denote rules, one for each specification. -/
theorem exists_denoted (h : ∀ spec ∈ specs, spec.Known) :
    ∃ rules, List.Forall₂ FieldSpec.Denotes specs rules := by
  induction specs with
  | nil => exact ⟨[], .nil⟩
  | cons spec specs ih =>
    obtain ⟨kind, hkind⟩ := h spec List.mem_cons_self
    obtain ⟨rules, hrules⟩ := ih fun other hother => h other (List.mem_cons_of_mem _ hother)
    exact ⟨_, .cons ⟨kind, hkind, rfl⟩ hrules⟩

theorem resolve_of_forall₂ (h : List.Forall₂ FieldSpec.Denotes specs rules) :
    resolve specs = .ok rules := by
  induction h with
  | nil => rfl
  | cons hspec _ ih =>
    rw [resolve_cons_of_denotes hspec, ih]
    rfl

/-- **Rules are resolved** if and only if each specification denotes its own. -/
theorem resolve_eq_ok_iff :
    resolve specs = .ok rules ↔ List.Forall₂ FieldSpec.Denotes specs rules := by
  refine ⟨fun h => ?_, resolve_of_forall₂⟩
  induction specs generalizing rules with
  | nil =>
    cases h
    exact .nil
  | cons spec specs ih =>
    by_cases hspec : spec.Known
    · obtain ⟨kind, hkind⟩ := hspec
      rw [resolve_cons_of_denotes ⟨kind, hkind, rfl⟩] at h
      cases hrest : resolve specs with
      | error failure =>
        rw [hrest] at h
        cases h
      | ok later =>
        rw [hrest] at h
        cases h
        exact .cons ⟨kind, hkind, rfl⟩ (ih hrest)
    · rw [resolve_cons_of_unknown hspec] at h
      cases h

/-! ## Failures -/

/-- The status and the short name of the reason with which an error in a field is answered. -/
inductive Answered : FieldError → Nat → String → Prop
  | mask {cause : MaskError} : Answered (.mask cause) 400 "bad_request"
  | unknownSuite {code : String} : Answered (.envelope (.unknownSuite code)) 400 "bad_request"
  | unknownKeyKind {id : String} : Answered (.envelope (.unknownKeyKind id)) 400 "bad_request"
  | malformed {cause : Malformation} : Answered (.envelope (.malformed cause)) 400 "bad_request"
  | tampered {suite : Suite} : Answered (.envelope (.tampered suite)) 400 "bad_request"
  | missingKey {suite : Suite} {kind : KeyKind} :
    Answered (.envelope (.missingKey suite kind)) 503 "service_unavailable"
  | keyLength {kind : KeyKind} : Answered (.envelope (.keyLength kind)) 503 "service_unavailable"
  | keyEncoding {kind : KeyKind} :
    Answered (.envelope (.keyEncoding kind)) 503 "service_unavailable"
  | unsupported {suite : Suite} :
    Answered (.envelope (.unsupported suite)) 503 "service_unavailable"
  | cipher {suite : Suite} : Answered (.envelope (.cipher suite)) 500 "encryption_failure"

theorem Answered.ne_ok {e : FieldError} {status : Nat} {code : String}
    (h : Answered e status code) : status ≠ 200 := by
  cases h <;> decide

theorem answered_ofFieldError (e : FieldError) :
    Answered e (Failure.ofFieldError e).status (Failure.ofFieldError e).code := by
  cases e with
  | mask cause => exact .mask
  | envelope cause => cases cause <;> constructor

theorem message_ofFieldError (e : FieldError) : (Failure.ofFieldError e).message = e.message := by
  cases e with
  | mask cause => rfl
  | envelope cause => cases cause <;> rfl

end Exchange

end FieldSeal

import FieldSeal.Document.Field
import FieldSeal.Proofs.Document.Visit

/-!
# Rules as lists of visits

Applying field rules is visiting, rule by rule, the places that their paths reach (`visits`). No
visit changes the shape of the document, so that the list is settled by the document as it was at
first, and the work is done on the filling alone (`applyAll_fill`).

A rule visits a place at most once. Hence a place is visited as often as there are rules that reach
it (`countP_visits`).
-/

namespace FieldSeal

open Document

namespace FieldRule

/-- The rule reaches the place in the document. -/
def Reaches (field : FieldRule) (j : Json) (place : Place) : Prop :=
  place ∈ reach (Path.parse field.path) j

instance (field : FieldRule) (j : Json) (place : Place) : Decidable (field.Reaches j place) :=
  inferInstanceAs (Decidable (place ∈ reach (Path.parse field.path) j))

/-- The visits of one rule. -/
def visits (field : FieldRule) (j : Json) : List (MaskRule × Place) :=
  (reach (Path.parse field.path) j).map fun place => (field.rule, place)

/-- The visits of rules, in the order in which they are made. -/
def visitsOf (rules : List FieldRule) (j : Json) : List (MaskRule × Place) :=
  rules.flatMap (·.visits j)

/-- The number of rules that reach a place. -/
def times (rules : List FieldRule) (j : Json) (place : Place) : Nat :=
  rules.countP (·.Reaches j place)

theorem exists_text_of_mem_visits {field : FieldRule} {j : Json} {v : MaskRule × Place}
    (h : v ∈ field.visits j) : ∃ text, j.textAt? v.2 = some text := by
  obtain ⟨place, hplace, rfl⟩ := List.mem_map.1 h
  exact exists_text_of_mem_reach hplace

/-! ## Applying rules -/

variable {f : MaskRule → String → Codec.Step String}

/-- The work of rules on a filling. -/
def touchAll (f : MaskRule → String → Codec.Step String) :
    List (MaskRule × Place) → Action ((Place → String) × Codec) FieldError Unit :=
  Action.each fun v => touch (f v.1) v.2

theorem change_fill (f : MaskRule → String → Codec.Step String) (field : FieldRule) (j : Json)
    (texts : Place → String) (c : Codec) :
    change (f field.rule) (Path.parse field.path) (j.fill texts, c) =
      ((touchAll f (field.visits j) (texts, c)).1,
        j.fill (touchAll f (field.visits j) (texts, c)).2.1,
        (touchAll f (field.visits j) (texts, c)).2.2) := by
  have htexts : ∀ v ∈ field.visits j, ∃ text, j.textAt? v.2 = some text :=
    fun v hv => exists_text_of_mem_visits hv
  have hvisits := each_visit_fill (f := fun v : MaskRule × Place => f v.1) htexts texts c
  rw [change_eq_each_visit, reach_fill]
  rw [visits, Action.each_map] at hvisits
  exact hvisits

theorem touchAll_cons_of_ok {v : MaskRule × Place} {texts : Place → String} {c d : Codec}
    {new : String} (h : f v.1 (texts v.2) c = (.ok new, d)) (vs : List (MaskRule × Place)) :
    touchAll f (v :: vs) (texts, c) = touchAll f vs (Function.update texts v.2 new, d) := by
  rw [touchAll, Action.each_cons, Action.bind_of_ok (touch_of_ok h)]

theorem touchAll_append (f : MaskRule → String → Codec.Step String)
    (vs ws : List (MaskRule × Place)) :
    touchAll f (vs ++ ws) = touchAll f vs >>= fun _ => touchAll f ws := Action.each_append _ vs ws

theorem applyAll_eq_each (f : MaskRule → String → Codec.Step String) (rules : List FieldRule) :
    applyAll f rules =
      Action.each (fun field => change (f field.rule) (Path.parse field.path)) rules := rfl

/-- **Applying rules to a filling.** -/
theorem applyAll_fill (f : MaskRule → String → Codec.Step String) (rules : List FieldRule)
    (j : Json) (texts : Place → String) (c : Codec) :
    applyAll f rules (j.fill texts, c) =
      ((touchAll f (visitsOf rules j) (texts, c)).1,
        j.fill (touchAll f (visitsOf rules j) (texts, c)).2.1,
        (touchAll f (visitsOf rules j) (texts, c)).2.2) := by
  induction rules generalizing texts c with
  | nil => rfl
  | cons field rules ih =>
    have hfirst := change_fill f field j texts c
    rw [applyAll_eq_each, Action.each_cons, ← applyAll_eq_each, visitsOf, List.flatMap_cons,
      touchAll_append, Action.bind_apply, Action.bind_apply, hfirst]
    rcases touchAll f (field.visits j) (texts, c) with ⟨result, later, d⟩
    cases result with
    | error e => rfl
    | ok => exact ih later d

/-! ## Counting visits -/

theorem times_append (rules rules' : List FieldRule) (j : Json) (place : Place) :
    times (rules ++ rules') j place = times rules j place + times rules' j place :=
  List.countP_append

theorem countP_visits_field (field : FieldRule) (j : Json) (place : Place) :
    (field.visits j).countP (·.2 = place) = if field.Reaches j place then 1 else 0 := by
  have hcount : (field.visits j).countP (·.2 = place) =
      (reach (Path.parse field.path) j).count place := by
    rw [visits, List.countP_map, List.count]
    exact List.countP_congr fun other _ => by simp
  rw [hcount]
  by_cases hreach : field.Reaches j place
  · rw [if_pos hreach]
    exact List.count_eq_one_of_mem (nodup_reach _ j) hreach
  · rw [if_neg hreach]
    exact List.count_eq_zero_of_not_mem hreach

theorem countP_visits (rules : List FieldRule) (j : Json) (place : Place) :
    (visitsOf rules j).countP (·.2 = place) = times rules j place := by
  induction rules with
  | nil => rfl
  | cons field rules ih =>
    have hcons : visitsOf (field :: rules) j = field.visits j ++ visitsOf rules j :=
      List.flatMap_cons
    rw [hcons, List.countP_append, ih, countP_visits_field, times, times, List.countP_cons,
      Nat.add_comm]
    by_cases hreach : field.Reaches j place
    · simp [hreach]
    · simp [hreach]

end FieldRule

end FieldSeal

import FieldSeal.Document.Walk
import FieldSeal.Proofs.Action
import FieldSeal.Proofs.Document.Place
import Mathlib.Data.List.Nodup

/-!
# Walks as visits of places

**Reach.** A path `reach`es the places of certain texts, in the order of the document. Which places
these are depends on the shape of the document alone (`reach_fill`).

**Visits.** `visit` changes the text at one place. Changing a document along a path is visiting the
places that the path reaches, one after another, up to the first failure (`change_eq_each_visit`).
On a filling a visit is a `touch` of the values at its place: of the document itself nothing else is
read or changed (`visit_fill`).
-/

namespace FieldSeal.Document

open FieldSeal.Action (each each_cons each_append)

variable {σ ε : Type}

/-! ## Reach -/

/-- The parts to which a step leads. Of several members with one name it is the first. -/
def leadsTo : PathStep → Json → List Nat
  | .key name, .object members => ((members.map Prod.fst).idxOf? name).toList
  | .item, .array items => List.range items.length
  | _, _ => []

/-- The places of the texts that a path reaches. -/
def reach : Path → Json → List Place
  | [], .string _ => [[]]
  | [], _ => []
  | step :: path, j => (leadsTo step j).flatMap fun i =>
    match j.child? i with
    | some child => (reach path child).map (i :: ·)
    | none => []

/-- The places that a path reaches in one part. -/
def reachIn (path : Path) (j : Json) (i : Nat) : List Place :=
  match j.child? i with
  | some child => (reach path child).map (i :: ·)
  | none => []

theorem reach_cons (step : PathStep) (path : Path) (j : Json) :
    reach (step :: path) j = (leadsTo step j).flatMap (reachIn path j) := rfl

theorem reachIn_of_child? {j child : Json} {i : Nat} (h : j.child? i = some child) (path : Path) :
    reachIn path j i = (reach path child).map (i :: ·) := by rw [reachIn, h]

theorem reachIn_of_missing {j : Json} {i : Nat} (h : j.child? i = none) (path : Path) :
    reachIn path j i = [] := by rw [reachIn, h]

theorem mem_reachIn {path : Path} {j : Json} {i : Nat} {place : Place} :
    place ∈ reachIn path j i ↔
      ∃ child rest, j.child? i = some child ∧ rest ∈ reach path child ∧ i :: rest = place := by
  cases h : j.child? i with
  | none => simp [reachIn_of_missing h]
  | some child => simp [reachIn_of_child? h]

theorem leadsTo_fill (texts : Place → String) (step : PathStep) (j : Json) :
    leadsTo step (j.fill texts) = leadsTo step j := by
  cases j with
  | array items =>
    rw [Json.fill_array]
    cases step with
    | key name => rfl
    | item => rw [leadsTo, leadsTo, List.length_mapIdx]
  | object members =>
    rw [Json.fill_object]
    cases step with
    | key name =>
      rw [leadsTo, leadsTo,
        Json.map_fst_mapIdx fun i (value : Json) => value.fill fun place => texts (i :: place)]
    | item => rfl
  | _ => cases step <;> rfl

theorem reach_fill (texts : Place → String) (path : Path) (j : Json) :
    reach path (j.fill texts) = reach path j := by
  induction path generalizing j texts with
  | nil => cases j <;> rfl
  | cons step path ih =>
    have hparts : reachIn path (j.fill texts) = reachIn path j := by
      funext i
      cases hchild : j.child? i with
      | none =>
        have hfilled : (j.fill texts).child? i = none := by
          rw [Json.child?_fill, hchild, Option.map_none]
        rw [reachIn_of_missing hfilled, reachIn_of_missing hchild]
      | some child =>
        rw [reachIn_of_child? (Json.child?_fill_of_child? hchild texts), reachIn_of_child? hchild,
          ih]
    rw [reach_cons, reach_cons, leadsTo_fill, hparts]

/-- There is a text at every place that is reached. -/
theorem exists_text_of_mem_reach {path : Path} {j : Json} {place : Place}
    (h : place ∈ reach path j) : ∃ text, j.textAt? place = some text := by
  induction path generalizing j place with
  | nil =>
    cases j with
    | string text =>
      rw [reach, List.mem_singleton] at h
      exact ⟨text, by rw [h]; rfl⟩
    | _ => cases h
  | cons step path ih =>
    rw [reach_cons, List.mem_flatMap] at h
    obtain ⟨i, -, h⟩ := h
    obtain ⟨child, rest, hchild, hrest, rfl⟩ := mem_reachIn.1 h
    obtain ⟨text, htext⟩ := ih hrest
    refine ⟨text, ?_⟩
    rw [Json.textAt?_cons, hchild]
    exact htext

theorem nodup_leadsTo (step : PathStep) (j : Json) : (leadsTo step j).Nodup := by
  unfold leadsTo
  split
  · next name members =>
    cases (members.map Prod.fst).idxOf? name with
    | none => exact List.nodup_nil
    | some i => exact List.nodup_singleton i
  · exact List.nodup_range
  · exact List.nodup_nil

/-- No place is reached twice. -/
theorem nodup_reach (path : Path) (j : Json) : (reach path j).Nodup := by
  induction path generalizing j with
  | nil =>
    cases j with
    | string text => exact List.nodup_singleton []
    | _ => exact List.nodup_nil
  | cons step path ih =>
    rw [reach_cons, List.nodup_flatMap]
    refine ⟨fun i _ => ?_, (nodup_leadsTo step j).imp fun {i k} hne place hi hk => ?_⟩
    · cases hchild : j.child? i with
      | none =>
        rw [reachIn_of_missing hchild]
        exact List.nodup_nil
      | some child =>
        rw [reachIn_of_child? hchild]
        exact (ih child).map List.cons_injective
    · obtain ⟨_, rest, -, -, hrest⟩ := mem_reachIn.1 hi
      obtain ⟨_, rest', -, -, hrest'⟩ := mem_reachIn.1 hk
      exact hne (List.cons.inj (hrest.trans hrest'.symm)).1

/-! ## Walks in a part -/

/-- Walk over one part of a document. -/
def inChild (walk : Walk σ ε) (i : Nat) : Walk σ ε
  | (j, s) =>
    match j.child? i with
    | some child =>
      match walk (child, s) with
      | (result, child, s) => (result, j.setChild i child, s)
    | none => (.ok (), j, s)

/-- Change the text at one place. -/
def visit (f : String → Action σ ε String) : Place → Walk σ ε
  | [] => changeText f
  | i :: place => inChild (visit f place) i

variable {f : String → Action σ ε String} {walk : Walk σ ε} {j child : Json} {i : Nat}

theorem inChild_of_child? (h : j.child? i = some child) (walk : Walk σ ε) (s : σ) :
    inChild walk i (j, s) =
      ((walk (child, s)).1, j.setChild i (walk (child, s)).2.1, (walk (child, s)).2.2) := by
  simp only [inChild, h]
  rfl

theorem inChild_of_missing (h : j.child? i = none) (walk : Walk σ ε) (s : σ) :
    inChild walk i (j, s) = (.ok (), j, s) := by
  simp only [inChild, h]

theorem child?_inChild_of_ne {k : Nat} (h : i ≠ k) (walk : Walk σ ε) (j : Json) (s : σ) :
    (inChild walk i (j, s)).2.1.child? k = j.child? k := by
  cases hchild : j.child? i with
  | none => rw [inChild_of_missing hchild]
  | some child =>
    rw [inChild_of_child? hchild]
    exact Json.child?_setChild_of_ne h j _

/-- Visits of places in one part are a walk in the part. -/
theorem each_visit_map_cons (h : j.child? i = some child) (places : List Place) (s : σ) :
    each (visit f) (places.map (i :: ·)) (j, s) = inChild (each (visit f) places) i (j, s) := by
  induction places generalizing j child s with
  | nil =>
    rw [inChild_of_child? h, Action.each_nil, Json.setChild_self h]
    rfl
  | cons place places ih =>
    rw [List.map_cons, inChild_of_child? h]
    have hvisit : visit f (i :: place) (j, s) = ((visit f place (child, s)).1,
        j.setChild i (visit f place (child, s)).2.1, (visit f place (child, s)).2.2) :=
      inChild_of_child? h _ _
    rcases hfirst : visit f place (child, s) with ⟨result, changed, t⟩
    rw [hfirst] at hvisit
    cases result with
    | error e =>
      rw [Action.each_cons_of_error hvisit, Action.each_cons_of_error hfirst]
    | ok =>
      have hchanged := Json.child?_setChild_self h changed
      rw [Action.each_cons_of_ok hvisit, Action.each_cons_of_ok hfirst, ih hchanged,
        inChild_of_child? hchanged, Json.setChild_setChild]

/-! ## Paths -/

theorem changeMember_of_idxOf? {name : String} {members : List (String × Json)}
    (h : (members.map Prod.fst).idxOf? name = some i) (walk : Walk σ ε) (s : σ) :
    ∃ value, members[i]?.map Prod.snd = some value ∧
      changeMember name walk (members, s) = ((walk (value, s)).1,
        members.modify i (fun member => (member.1, (walk (value, s)).2.1)),
        (walk (value, s)).2.2) := by
  induction members generalizing i with
  | nil => cases h
  | cons member members ih =>
    obtain ⟨n, value⟩ := member
    rw [List.map_cons, List.idxOf?_cons] at h
    by_cases hn : n = name
    · rw [if_pos (beq_iff_eq.2 hn), Option.some.injEq] at h
      subst h
      refine ⟨value, rfl, ?_⟩
      simp only [changeMember, if_pos hn]
      rfl
    · rw [if_neg (fun hbeq => hn (beq_iff_eq.1 hbeq)), Option.map_eq_some_iff] at h
      obtain ⟨k, hk, rfl⟩ := h
      obtain ⟨found, hfound, hchange⟩ := ih hk
      refine ⟨found, hfound, ?_⟩
      simp only [changeMember, if_neg hn, hchange]
      rfl

theorem changeMember_of_missing {name : String} {members : List (String × Json)}
    (h : (members.map Prod.fst).idxOf? name = none) (walk : Walk σ ε) (s : σ) :
    changeMember name walk (members, s) = (.ok (), members, s) := by
  induction members with
  | nil => simp only [changeMember]
  | cons member members ih =>
    obtain ⟨n, value⟩ := member
    rw [List.map_cons, List.idxOf?_cons] at h
    by_cases hn : n = name
    · rw [if_pos (beq_iff_eq.2 hn)] at h
      cases h
    · rw [if_neg (fun hbeq => hn (beq_iff_eq.1 hbeq)), Option.map_eq_none_iff] at h
      simp only [changeMember, if_neg hn, ih h]

theorem modify_length_append {α : Type} (done : List α) (x : α) (rest : List α) (f : α → α) :
    (done ++ x :: rest).modify done.length f = (done ++ [f x]) ++ rest := by
  induction done with
  | nil => rfl
  | cons first done ih =>
    rw [List.length_cons, List.cons_append, List.modify_succ_cons, ih]
    rfl

/-- The items behind those that are done are walked over one after another. -/
theorem each_inChild_items (walk : Walk σ ε) (done items : List Json) (s : σ) :
    each (inChild walk) (List.range' done.length items.length)
        (.array (done ++ items), s) =
      ((changeItems walk (items, s)).1, .array (done ++ (changeItems walk (items, s)).2.1),
        (changeItems walk (items, s)).2.2) := by
  induction items generalizing done s with
  | nil =>
    simp only [changeItems]
    rfl
  | cons item items ih =>
    have hitem : (Json.array (done ++ item :: items)).child? done.length = some item := by
      rw [Json.child?, List.getElem?_append_right (Nat.le_refl _), Nat.sub_self,
        List.getElem?_cons_zero]
    have hset : ∀ changed : Json, (Json.array (done ++ item :: items)).setChild done.length changed =
        .array ((done ++ [changed]) ++ items) := by
      intro changed
      rw [Json.setChild, modify_length_append]
    have hfirst := inChild_of_child? hitem walk s
    rcases hwalk : walk (item, s) with ⟨result, changed, t⟩
    rw [hwalk, hset] at hfirst
    rw [List.length_cons, List.range'_succ]
    cases result with
    | error e =>
      rw [Action.each_cons_of_error hfirst]
      simp only [changeItems, hwalk, List.append_assoc]
      rfl
    | ok =>
      have hlength : (done ++ [changed]).length = done.length + 1 := List.length_append
      rw [Action.each_cons_of_ok hfirst, ← hlength, ih]
      simp only [changeItems, hwalk, List.append_assoc]
      rfl

/-- A step of a path is a walk over the parts to which it leads. -/
theorem change_cons (f : String → Action σ ε String) (step : PathStep) (path : Path) (j : Json)
    (s : σ) : change f (step :: path) (j, s) =
      each (inChild (change f path)) (leadsTo step j) (j, s) := by
  cases step with
  | key name =>
    cases j with
    | object members =>
      cases hindex : (members.map Prod.fst).idxOf? name with
      | none =>
        have hnone := changeMember_of_missing hindex (change f path) s
        rw [leadsTo, hindex]
        simp only [change, hnone]
        rfl
      | some i =>
        obtain ⟨value, hvalue, hchange⟩ := changeMember_of_idxOf? hindex (change f path) s
        have hchild : (Json.object members).child? i = some value := hvalue
        have hwalk := inChild_of_child? hchild (change f path) s
        rw [leadsTo, hindex, Option.toList_some, Action.each_singleton, hwalk]
        simp only [change, hchange]
        rfl
    | _ => rfl
  | item =>
    cases j with
    | array items =>
      have hitems := each_inChild_items (change f path) [] items s
      rw [List.length_nil, ← List.range_eq_range'] at hitems
      rw [leadsTo]
      exact hitems.symm
    | _ => rfl

/-- Walks over different parts are visits of the places in them. -/
theorem each_inChild_eq_each_visit {path : Path}
    (hpath : ∀ (j : Json) (s : σ), change f path (j, s) = each (visit f) (reach path j) (j, s))
    {parts : List Nat} (hparts : parts.Nodup) (j : Json) {now : Json}
    (hnow : ∀ i ∈ parts, now.child? i = j.child? i) (s : σ) :
    each (inChild (change f path)) parts (now, s) =
      each (visit f) (parts.flatMap (reachIn path j)) (now, s) := by
  induction parts generalizing now s with
  | nil => rfl
  | cons i parts ih =>
    obtain ⟨hi, hrest⟩ := List.nodup_cons.1 hparts
    have hothers : ∀ k ∈ parts, (inChild (change f path) i (now, s)).2.1.child? k = j.child? k := by
      intro k hk
      have hne : i ≠ k := fun h => hi (h ▸ hk)
      rw [child?_inChild_of_ne hne]
      exact hnow k (List.mem_cons_of_mem _ hk)
    have hfirst : inChild (change f path) i (now, s) =
        each (visit f) (reachIn path j i) (now, s) := by
      have hchild := hnow i List.mem_cons_self
      cases hj : j.child? i with
      | none =>
        rw [hj] at hchild
        rw [inChild_of_missing hchild, reachIn_of_missing hj, Action.each_nil]
      | some child =>
        rw [hj] at hchild
        rw [reachIn_of_child? hj, each_visit_map_cons hchild, inChild_of_child? hchild,
          inChild_of_child? hchild, hpath]
    rw [each_cons, List.flatMap_cons, each_append, Action.bind_apply, Action.bind_apply,
      ← hfirst]
    rcases hlater : inChild (change f path) i (now, s) with ⟨result, later, t⟩
    rw [hlater] at hothers
    cases result with
    | error e => rfl
    | ok => exact ih hrest hothers t

/-- **Walks are visits.** -/
theorem change_eq_each_visit (f : String → Action σ ε String) (path : Path) (j : Json) (s : σ) :
    change f path (j, s) = each (visit f) (reach path j) (j, s) := by
  induction path generalizing j s with
  | nil =>
    cases j with
    | string text =>
      rw [reach, Action.each_singleton]
      rfl
    | _ => rfl
  | cons step path ih =>
    rw [change_cons, reach_cons]
    exact each_inChild_eq_each_visit ih (nodup_leadsTo step j) j (fun _ _ => rfl) s

/-! ## Visits of fillings -/

/-- Change the value of a filling at one place. -/
def touch (f : String → Action σ ε String) (place : Place) : Action ((Place → String) × σ) ε Unit
  | (texts, s) =>
    match f (texts place) s with
    | (.ok new, s) => (.ok (), Function.update texts place new, s)
    | (.error e, s) => (.error e, texts, s)

theorem touch_of_ok {place : Place} {new : String} {texts : Place → String} {s t : σ}
    (h : f (texts place) s = (.ok new, t)) :
    touch f place (texts, s) = (.ok (), Function.update texts place new, t) := by
  simp only [touch, h]

theorem touch_of_error {place : Place} {e : ε} {texts : Place → String} {s t : σ}
    (h : f (texts place) s = (.error e, t)) :
    touch f place (texts, s) = (.error e, texts, t) := by
  simp only [touch, h]

theorem touch_eq_ok_iff {place : Place} {texts : Place → String} {s : σ}
    {state : (Place → String) × σ} :
    touch f place (texts, s) = (.ok (), state) ↔
      ∃ new t, f (texts place) s = (.ok new, t) ∧ state = (Function.update texts place new, t) := by
  rcases h : f (texts place) s with ⟨result, t⟩
  cases result with
  | error e =>
    rw [touch_of_error h]
    refine ⟨?_, ?_⟩
    · intro h
      cases h
    · intro h
      obtain ⟨new, t', h, -⟩ := h
      cases h
  | ok new =>
    rw [touch_of_ok h]
    refine ⟨?_, ?_⟩
    · intro h
      cases h
      exact ⟨new, t, rfl, rfl⟩
    · intro h
      obtain ⟨new', t', h, rfl⟩ := h
      cases h
      rfl

/-- In a part of a document, a filling is touched as in the whole. -/
theorem graft_touch (f : String → Action σ ε String) (i : Nat) (place : Place)
    (texts : Place → String) (s : σ) :
    ((touch f place (fun place => texts (i :: place), s)).1,
        Json.graft texts i (touch f place (fun place => texts (i :: place), s)).2.1,
        (touch f place (fun place => texts (i :: place), s)).2.2) =
      touch f (i :: place) (texts, s) := by
  rcases h : f (texts (i :: place)) s with ⟨result, t⟩
  cases result with
  | error e =>
    have hpart : touch f place (fun place => texts (i :: place), s) =
        (.error e, fun place => texts (i :: place), t) := touch_of_error h
    rw [hpart, touch_of_error h, Json.graft_self]
  | ok new =>
    have hpart : touch f place (fun place => texts (i :: place), s) =
        (.ok (), Function.update (fun place => texts (i :: place)) place new, t) := touch_of_ok h
    rw [hpart, touch_of_ok h, Json.graft_update]

/-- A visit of a place that has a text touches the filling there. -/
theorem visit_fill {place : Place} {old : String} (h : j.textAt? place = some old)
    (f : String → Action σ ε String) (texts : Place → String) (s : σ) :
    visit f place (j.fill texts, s) = ((touch f place (texts, s)).1,
      j.fill (touch f place (texts, s)).2.1, (touch f place (texts, s)).2.2) := by
  induction place generalizing j texts with
  | nil =>
    cases j with
    | string text =>
      rw [Json.fill, visit]
      rcases hf : f (texts []) s with ⟨result, t⟩
      cases result with
      | error e => simp only [changeText, touch, hf, Json.fill]
      | ok new => simp only [changeText, touch, hf, Json.fill, Function.update_self]
    | _ => cases h
  | cons i place ih =>
    rw [Json.textAt?_cons, Option.bind_eq_some_iff] at h
    obtain ⟨child, hchild, hold⟩ := h
    rw [visit, inChild_of_child? (Json.child?_fill_of_child? hchild texts), ih hold,
      Json.setChild_fill hchild, ← graft_touch]

/-- Visits of places that have a text touch the filling, one after another. -/
theorem each_visit_fill {α : Type} {f : α → String → Action σ ε String} {place : α → Place}
    {visits : List α} (h : ∀ v ∈ visits, ∃ text, j.textAt? (place v) = some text)
    (texts : Place → String) (s : σ) :
    each (fun v => visit (f v) (place v)) visits (j.fill texts, s) =
      ((each (fun v => touch (f v) (place v)) visits (texts, s)).1,
        j.fill (each (fun v => touch (f v) (place v)) visits (texts, s)).2.1,
        (each (fun v => touch (f v) (place v)) visits (texts, s)).2.2) := by
  induction visits generalizing texts s with
  | nil => rfl
  | cons v visits ih =>
    obtain ⟨text, htext⟩ := h v List.mem_cons_self
    have hvisit := visit_fill htext (f v) texts s
    have hrest : ∀ w ∈ visits, ∃ text, j.textAt? (place w) = some text :=
      fun w hw => h w (List.mem_cons_of_mem _ hw)
    rw [each_cons, each_cons, Action.bind_apply, Action.bind_apply, hvisit]
    rcases touch (f v) (place v) (texts, s) with ⟨result, later, t⟩
    cases result with
    | error e => rfl
    | ok => exact ih hrest later t

end FieldSeal.Document

import FieldSeal.Proofs.Document.Visit

/-!
# The shape of a document and the places that paths address

**Shape.** `node?` says what there is at a place except for the contents of texts: the names of the
members of an object, the number of items of an array, the value of anything else. The nodes and
the texts at all places determine a document (`eq_of_node?_of_textAt?`), and a filling has the nodes
of what it fills (`node?_fill`).

**Places.** A path `Addresses` the texts to which its steps lead: a name to the first member with
this name, `[]` to any item. `reach` lists exactly these places (`mem_reach_iff`), in ascending order
(`ascending_reach`).
-/

namespace FieldSeal

namespace Json

/-! ## Shape -/

/-- What there is at a place, the contents of a text aside. -/
inductive Node where
  | null
  | bool (b : Bool)
  | number (n : Number)
  | text
  | array (length : Nat)
  | object (names : List String)

/-- What a document is at its top. -/
def node : Json → Node
  | null => .null
  | bool b => .bool b
  | number n => .number n
  | string _ => .text
  | array items => .array items.length
  | object members => .object (members.map Prod.fst)

/-- What there is at a place of a document. -/
def node? : Json → Place → Option Node
  | j, [] => some j.node
  | j, i :: place =>
    match j.child? i with
    | some child => child.node? place
    | none => none

theorem node?_cons (j : Json) (i : Nat) (place : Place) :
    j.node? (i :: place) = (j.child? i).bind (node? · place) := by
  rw [node?]
  cases j.child? i <;> rfl

theorem node_fill (texts : Place → String) (j : Json) : (j.fill texts).node = j.node := by
  cases j with
  | array items => rw [fill_array, node, node, List.length_mapIdx]
  | object members =>
    rw [fill_object, node, node,
      map_fst_mapIdx fun i (value : Json) => value.fill fun place => texts (i :: place)]
  | _ => rfl

theorem node?_fill (texts : Place → String) (j : Json) (place : Place) :
    (j.fill texts).node? place = j.node? place := by
  induction place generalizing j texts with
  | nil => rw [node?, node?, node_fill]
  | cons i place ih =>
    rw [node?_cons, node?_cons, child?_fill]
    cases h : j.child? i with
    | none => rfl
    | some child => exact ih _ child

/-- There are texts where the shape says so. -/
theorem exists_textAt?_iff {j : Json} {place : Place} :
    (∃ text, j.textAt? place = some text) ↔ j.node? place = some .text := by
  induction place generalizing j with
  | nil => cases j <;> simp [textAt?, node?, node]
  | cons i place ih =>
    rw [textAt?_cons, node?_cons]
    cases j.child? i with
    | none => simp
    | some child => exact ih

/-- Documents with the same top and the same parts are equal. -/
theorem eq_of_child? {j j' : Json} (hnode : j.node = j'.node)
    (htext : j.textAt? [] = j'.textAt? [])
    (hchild : ∀ i child child', j.child? i = some child → j'.child? i = some child' →
      child = child') : j = j' := by
  cases j with
  | array items =>
    cases j' with
    | array items' =>
      have hlength : items.length = items'.length := by
        injection hnode
      refine congrArg array (List.ext_getElem hlength fun i h h' => ?_)
      exact hchild i _ _ (List.getElem?_eq_getElem h) (List.getElem?_eq_getElem h')
    | _ => cases hnode
  | object members =>
    cases j' with
    | object members' =>
      have hnames : members.map Prod.fst = members'.map Prod.fst := by
        injection hnode
      have hlength : members.length = members'.length := by
        simpa only [List.length_map] using congrArg List.length hnames
      refine congrArg object (List.ext_getElem hlength fun i h h' => Prod.ext ?_ ?_)
      · have hname := congrArg (·[i]?) hnames
        simpa only [List.getElem?_map, List.getElem?_eq_getElem h, List.getElem?_eq_getElem h',
          Option.map_some, Option.some.injEq] using hname
      · refine hchild i _ _ ?_ ?_
        · rw [child?, List.getElem?_eq_getElem h, Option.map_some]
        · rw [child?, List.getElem?_eq_getElem h', Option.map_some]
    | _ => cases hnode
  | string text =>
    cases j' with
    | string text' =>
      injection htext with htext
      rw [htext]
    | _ => cases hnode
  | _ =>
    cases j' <;> cases hnode
    rfl

/-- The nodes and the texts determine a document. -/
theorem eq_of_node?_of_textAt? {j j' : Json} (hnode : ∀ place, j.node? place = j'.node? place)
    (htext : ∀ place, j.textAt? place = j'.textAt? place) : j = j' := by
  -- Both hypotheses pass to a part that the two documents have at the same number.
  have hpart : ∀ {j j' child child' : Json} {i : Nat},
      (∀ place, j.node? place = j'.node? place) → (∀ place, j.textAt? place = j'.textAt? place) →
      j.child? i = some child → j'.child? i = some child' →
        (∀ place, child.node? place = child'.node? place) ∧
          ∀ place, child.textAt? place = child'.textAt? place := by
    intro j j' child child' i hnode htext hchild hchild'
    refine ⟨fun place => ?_, fun place => ?_⟩
    · have h := hnode (i :: place)
      rwa [node?_cons, node?_cons, hchild, hchild'] at h
    · have h := htext (i :: place)
      rwa [textAt?_cons, textAt?_cons, hchild, hchild'] at h
  have htop : ∀ {j j' : Json}, (∀ place, j.node? place = j'.node? place) → j.node = j'.node :=
    fun h => Option.some.inj (h [])
  induction j using induct generalizing j' with
  | array items ih =>
    refine eq_of_child? (htop hnode) (htext []) fun i child child' hchild hchild' => ?_
    obtain ⟨hnode', htext'⟩ := hpart hnode htext hchild hchild'
    exact ih child (List.mem_of_getElem? hchild) hnode' htext'
  | object members ih =>
    refine eq_of_child? (htop hnode) (htext []) fun i child child' hchild hchild' => ?_
    obtain ⟨hnode', htext'⟩ := hpart hnode htext hchild hchild'
    obtain ⟨member, hmember, rfl⟩ := Option.map_eq_some_iff.1 hchild
    exact ih member (List.mem_of_getElem? hmember) hnode' htext'
  | _ => exact eq_of_child? (htop hnode) (htext []) nofun

end Json

namespace Document

/-! ## Addressed places -/

/-- The steps of the path lead to the place, and there is a text. -/
inductive Addresses : Path → Json → Place → Prop
  | text {text : String} : Addresses [] (.string text) []
  | key {name : String} {path : Path} {members : List (String × Json)} {i : Nat} {value : Json}
    {place : Place} (hmember : members[i]? = some (name, value))
    (hfirst : ∀ k < i, ∀ member, members[k]? = some member → member.1 ≠ name)
    (h : Addresses path value place) :
    Addresses (.key name :: path) (.object members) (i :: place)
  | item {path : Path} {items : List Json} {i : Nat} {item : Json} {place : Place}
    (hitem : items[i]? = some item) (h : Addresses path item place) :
    Addresses (.item :: path) (.array items) (i :: place)

theorem mem_leadsTo_key_iff {name : String} {members : List (String × Json)} {i : Nat} :
    i ∈ leadsTo (.key name) (.object members) ↔
      (∃ value, members[i]? = some (name, value)) ∧
        ∀ k < i, ∀ member, members[k]? = some member → member.1 ≠ name := by
  rw [leadsTo, Option.mem_toList, List.idxOf?_eq_some_iff]
  constructor
  · rintro ⟨hi, hname, hfirst⟩
    have hi' : i < members.length := by rwa [List.length_map] at hi
    refine ⟨⟨members[i].2, ?_⟩, fun k hk member hmember => ?_⟩
    · rw [List.getElem_map] at hname
      rw [List.getElem?_eq_getElem hi', ← hname]
    · obtain ⟨hk', rfl⟩ := List.getElem?_eq_some_iff.1 hmember
      have hother := hfirst k hk
      rwa [List.getElem_map] at hother
  · rintro ⟨⟨value, hvalue⟩, hfirst⟩
    obtain ⟨hi, hmember⟩ := List.getElem?_eq_some_iff.1 hvalue
    refine ⟨by rwa [List.length_map], by rw [List.getElem_map, hmember], fun k hk => ?_⟩
    rw [List.getElem_map]
    exact hfirst k hk _ (List.getElem?_eq_getElem (Nat.lt_trans hk hi))

theorem mem_leadsTo_item_iff {items : List Json} {i : Nat} :
    i ∈ leadsTo .item (.array items) ↔ ∃ item, items[i]? = some item := by
  rw [leadsTo, List.mem_range]
  constructor
  · intro h
    exact ⟨_, List.getElem?_eq_getElem h⟩
  · rintro ⟨item, h⟩
    exact (List.getElem?_eq_some_iff.1 h).1

/-- A path reaches the places that it addresses. -/
theorem mem_reach_iff {path : Path} {j : Json} {place : Place} :
    place ∈ reach path j ↔ Addresses path j place := by
  constructor
  · intro h
    induction path generalizing j place with
    | nil =>
      cases j with
      | string text =>
        cases List.mem_singleton.1 h
        exact .text
      | _ => cases h
    | cons step path ih =>
      obtain ⟨i, hi, h⟩ := List.mem_flatMap.1 h
      obtain ⟨child, rest, hchild, hrest, rfl⟩ := mem_reachIn.1 h
      cases j with
      | array items =>
        cases step with
        | item => exact .item hchild (ih hrest)
        | key name => cases hi
      | object members =>
        cases step with
        | item => cases hi
        | key name =>
          obtain ⟨⟨value, hvalue⟩, hfirst⟩ := mem_leadsTo_key_iff.1 hi
          rw [Json.child?, hvalue, Option.map_some, Option.some.injEq] at hchild
          subst hchild
          exact .key hvalue hfirst (ih hrest)
      | _ => cases step <;> cases hi
  · intro h
    induction h with
    | text => exact List.mem_singleton.2 rfl
    | key hmember hfirst _ ih =>
      refine List.mem_flatMap.2 ⟨_, mem_leadsTo_key_iff.2 ⟨⟨_, hmember⟩, hfirst⟩, ?_⟩
      refine mem_reachIn.2 ⟨_, _, ?_, ih, rfl⟩
      rw [Json.child?, hmember, Option.map_some]
    | item hitem _ ih =>
      refine List.mem_flatMap.2 ⟨_, mem_leadsTo_item_iff.2 ⟨_, hitem⟩, ?_⟩
      exact mem_reachIn.2 ⟨_, _, hitem, ih, rfl⟩

theorem ascending_leadsTo (step : PathStep) (j : Json) : (leadsTo step j).Pairwise (· < ·) := by
  unfold leadsTo
  split
  · next name members =>
    cases (members.map Prod.fst).idxOf? name with
    | none => exact List.Pairwise.nil
    | some i => exact List.pairwise_singleton _ i
  · exact List.pairwise_lt_range
  · exact List.Pairwise.nil

/-- Places are reached in ascending order. -/
theorem ascending_reach (path : Path) (j : Json) : (reach path j).Pairwise (· < ·) := by
  induction path generalizing j with
  | nil =>
    cases j with
    | string text => exact List.pairwise_singleton _ []
    | _ => exact List.Pairwise.nil
  | cons step path ih =>
    rw [reach_cons, List.pairwise_flatMap]
    refine ⟨fun i _ => ?_, (ascending_leadsTo step j).imp fun {i k} hik place hi place' hk => ?_⟩
    · cases hchild : j.child? i with
      | none =>
        rw [reachIn_of_missing hchild]
        exact List.Pairwise.nil
      | some child =>
        rw [reachIn_of_child? hchild, List.pairwise_map]
        exact (ih child).imp fun h => List.cons_lt_cons_iff.2 (.inr ⟨rfl, h⟩)
    · obtain ⟨_, rest, -, -, rfl⟩ := mem_reachIn.1 hi
      obtain ⟨_, rest', -, -, rfl⟩ := mem_reachIn.1 hk
      exact List.cons_lt_cons_iff.2 (.inl hik)

end Document

end FieldSeal

import FieldSeal.Json.Basic
import Mathlib.Logic.Function.Basic

/-!
# Places in documents

**Places.** The parts of an array or an object are numbered in their order, and a `Place` is the list
of the numbers on the way from the top of a document. `textAt?` reads the text at a place.

**Filling.** `fill` puts other texts into a document and leaves everything else as it is. So all
documents of one shape are fillings of any of them, and a document is determined by its shape and
its texts (`fill_eq_self`). A change of one text is a change of one value of the filling.
-/

namespace FieldSeal

/-- The numbers of the parts on the way to a part of a document. -/
abbrev Place := List Nat

namespace Json

/-- What holds of the parts of every array and object, and of everything that has no parts, holds of
every document. -/
@[elab_as_elim]
theorem induct {P : Json → Prop} (null : P .null) (bool : ∀ b, P (.bool b))
    (number : ∀ n, P (.number n)) (string : ∀ s, P (.string s))
    (array : ∀ items, (∀ item ∈ items, P item) → P (.array items))
    (object : ∀ members, (∀ member ∈ members, P member.2) → P (.object members)) :
    ∀ j, P j := by
  refine @Json.rec P (fun items => ∀ item ∈ items, P item)
    (fun members => ∀ member ∈ members, P member.2) (fun member => P member.2)
    null bool number string array object ?_ ?_ ?_ ?_ ?_
  · intro item h
    cases h
  · intro head tail hhead htail item h
    rcases List.mem_cons.1 h with rfl | h
    · exact hhead
    · exact htail item h
  · intro member h
    cases h
  · intro head tail hhead htail member h
    rcases List.mem_cons.1 h with rfl | h
    · exact hhead
    · exact htail member h
  · intro name value h
    exact h

/-! ## Lists -/

section Lists

variable {α β : Type} {xs : List α} {i : Nat} {x : α}

theorem modify_eq_self (hx : xs[i]? = some x) {f : α → α} (hf : f x = x) : xs.modify i f = xs := by
  refine List.ext_getElem? fun k => ?_
  by_cases hk : i = k
  · subst hk
    rw [List.getElem?_modify_eq, hx, Option.map_eq_map, Option.map_some, hf]
  · rw [List.getElem?_modify_ne _ _ hk]

theorem mapIdx_eq_self {f : Nat → α → α} (h : ∀ i x, xs[i]? = some x → f i x = x) :
    xs.mapIdx f = xs := by
  refine List.ext_getElem? fun k => ?_
  rw [List.getElem?_mapIdx]
  cases hx : xs[k]? with
  | none => rfl
  | some x => rw [Option.map_some, h k x hx]

/-- Changing the second components leaves the first ones. -/
theorem map_fst_mapIdx (f : Nat → β → β) (xs : List (α × β)) :
    (xs.mapIdx fun i x => (x.1, f i x.2)).map Prod.fst = xs.map Prod.fst := by
  refine List.ext_getElem? fun i => ?_
  rw [List.getElem?_map, List.getElem?_mapIdx, List.getElem?_map, Option.map_map]
  rfl

/-- Modifying the image of one item gives the images under another function. -/
theorem modify_mapIdx (hx : xs[i]? = some x) {f g : Nat → α → β} {h : β → β}
    (hself : h (f i x) = g i x) (hother : ∀ k y, i ≠ k → f k y = g k y) :
    (xs.mapIdx f).modify i h = xs.mapIdx g := by
  refine List.ext_getElem? fun k => ?_
  rw [List.getElem?_mapIdx]
  by_cases hk : i = k
  · subst hk
    rw [List.getElem?_modify_eq, List.getElem?_mapIdx, hx, Option.map_eq_map, Option.map_some,
      Option.map_some, Option.map_some, hself]
  · have heq : f k = g k := by
      funext y
      exact hother k y hk
    rw [List.getElem?_modify_ne _ _ hk, List.getElem?_mapIdx, heq]

end Lists

/-! ## Parts -/

/-- The part of an array or an object with a number. -/
def child? : Json → Nat → Option Json
  | array items, i => items[i]?
  | object members, i => members[i]?.map Prod.snd
  | _, _ => none

/-- Put another part in the place of the one with the number. -/
def setChild (j : Json) (i : Nat) (child : Json) : Json :=
  match j with
  | array items => array (items.modify i fun _ => child)
  | object members => object (members.modify i fun member => (member.1, child))
  | j => j

theorem child?_setChild_self {j old : Json} {i : Nat} (h : j.child? i = some old) (child : Json) :
    (j.setChild i child).child? i = some child := by
  cases j with
  | array items =>
    have hitem : items[i]? = some old := h
    simp [setChild, child?, hitem]
  | object members =>
    obtain ⟨member, hmember, -⟩ := Option.map_eq_some_iff.1 h
    simp [setChild, child?, hmember]
  | _ => cases h

theorem child?_setChild_of_ne {i k : Nat} (h : i ≠ k) (j child : Json) :
    (j.setChild i child).child? k = j.child? k := by
  cases j with
  | array items => simp [setChild, child?, h]
  | object members => simp [setChild, child?, h]
  | _ => rfl

theorem setChild_setChild (j : Json) (i : Nat) (child child' : Json) :
    (j.setChild i child).setChild i child' = j.setChild i child' := by
  cases j with
  | array items =>
    simp only [setChild, List.modify_modify_eq]
    rfl
  | object members =>
    simp only [setChild, List.modify_modify_eq]
    rfl
  | _ => rfl

theorem setChild_self {j child : Json} {i : Nat} (h : j.child? i = some child) :
    j.setChild i child = j := by
  cases j with
  | array items =>
    have hitem : items[i]? = some child := h
    rw [setChild, modify_eq_self hitem rfl]
  | object members =>
    obtain ⟨member, hmember, rfl⟩ := Option.map_eq_some_iff.1 h
    rw [setChild, modify_eq_self hmember rfl]
  | _ => rfl

/-- The text at a place, if there is one. -/
def textAt? : Json → Place → Option String
  | string text, [] => some text
  | _, [] => none
  | j, i :: place =>
    match j.child? i with
    | some child => child.textAt? place
    | none => none

theorem textAt?_cons (j : Json) (i : Nat) (place : Place) :
    j.textAt? (i :: place) = (j.child? i).bind (textAt? · place) := by
  rw [textAt?]
  cases j.child? i <;> rfl

/-! ## Filling -/

mutual

/-- The document with the given texts in place of its own. -/
def fill (texts : Place → String) : Json → Json
  | null => null
  | bool b => bool b
  | number n => number n
  | string _ => string (texts [])
  | array items => array (fillItems texts 0 items)
  | object members => object (fillMembers texts 0 members)

def fillItems (texts : Place → String) (i : Nat) : List Json → List Json
  | [] => []
  | item :: items => item.fill (fun place => texts (i :: place)) :: fillItems texts (i + 1) items

def fillMembers (texts : Place → String) (i : Nat) : List (String × Json) → List (String × Json)
  | [] => []
  | (name, value) :: members =>
    (name, value.fill fun place => texts (i :: place)) :: fillMembers texts (i + 1) members

end

theorem fillItems_eq_mapIdx (texts : Place → String) (n : Nat) (items : List Json) :
    fillItems texts n items =
      items.mapIdx fun i item => item.fill fun place => texts ((n + i) :: place) := by
  induction items generalizing n with
  | nil => rfl
  | cons item items ih =>
    have hshift : ∀ i, n + 1 + i = n + (i + 1) := fun i => by omega
    rw [fillItems, ih, List.mapIdx_cons]
    simp only [hshift, Nat.add_zero]

theorem fillMembers_eq_mapIdx (texts : Place → String) (n : Nat)
    (members : List (String × Json)) :
    fillMembers texts n members = members.mapIdx fun i member =>
      (member.1, member.2.fill fun place => texts ((n + i) :: place)) := by
  induction members generalizing n with
  | nil => rfl
  | cons member members ih =>
    have hshift : ∀ i, n + 1 + i = n + (i + 1) := fun i => by omega
    rw [fillMembers, ih, List.mapIdx_cons]
    simp only [hshift, Nat.add_zero]

theorem fill_array (texts : Place → String) (items : List Json) :
    (array items).fill texts =
      array (items.mapIdx fun i item => item.fill fun place => texts (i :: place)) := by
  rw [fill, fillItems_eq_mapIdx]
  simp only [Nat.zero_add]

theorem fill_object (texts : Place → String) (members : List (String × Json)) :
    (object members).fill texts = object (members.mapIdx fun i member =>
      (member.1, member.2.fill fun place => texts (i :: place))) := by
  rw [fill, fillMembers_eq_mapIdx]
  simp only [Nat.zero_add]

theorem child?_fill (texts : Place → String) (j : Json) (i : Nat) :
    (j.fill texts).child? i = (j.child? i).map (fill fun place => texts (i :: place)) := by
  cases j with
  | array items => rw [fill_array, child?, child?, List.getElem?_mapIdx]
  | object members =>
    rw [fill_object, child?, child?, List.getElem?_mapIdx, Option.map_map, Option.map_map]
    rfl
  | _ => rfl

theorem child?_fill_of_child? {j child : Json} {i : Nat} (h : j.child? i = some child)
    (texts : Place → String) :
    (j.fill texts).child? i = some (child.fill fun place => texts (i :: place)) := by
  rw [child?_fill, h, Option.map_some]

theorem textAt?_fill (texts : Place → String) (j : Json) (place : Place) :
    (j.fill texts).textAt? place = (j.textAt? place).map fun _ => texts place := by
  induction place generalizing j texts with
  | nil => cases j <;> rfl
  | cons i place ih =>
    rw [textAt?_cons, textAt?_cons, child?_fill]
    cases h : j.child? i with
    | none => rfl
    | some child => exact ih _ child

/-- Filling a document with its own texts changes nothing. -/
theorem fill_eq_self {j : Json} {texts : Place → String}
    (h : ∀ place text, j.textAt? place = some text → texts place = text) : j.fill texts = j := by
  induction j using induct generalizing texts with
  | null => rfl
  | bool b => rfl
  | number n => rfl
  | string s => rw [fill, h [] s rfl]
  | array items ih =>
    rw [fill_array, mapIdx_eq_self]
    intro i item hitem
    refine ih item (List.mem_of_getElem? hitem) fun place text htext => h (i :: place) text ?_
    rw [textAt?_cons, child?, hitem]
    exact htext
  | object members ih =>
    rw [fill_object, mapIdx_eq_self]
    intro i member hmember
    refine Prod.ext rfl (ih member (List.mem_of_getElem? hmember) fun place text htext =>
      h (i :: place) text ?_)
    rw [textAt?_cons, child?, hmember]
    exact htext

/-- The texts of a document; the value at other places does not matter. -/
def texts (j : Json) (place : Place) : String := (j.textAt? place).getD ""

theorem texts_of_textAt? {j : Json} {place : Place} {text : String}
    (h : j.textAt? place = some text) : j.texts place = text := by rw [texts, h, Option.getD_some]

theorem fill_texts (j : Json) : j.fill j.texts = j := fill_eq_self fun _ _ => texts_of_textAt?

/-! ## Changing one part -/

/-- Texts of a document with those of one part replaced. -/
def graft (texts : Place → String) (i : Nat) (others : Place → String) : Place → String
  | [] => texts []
  | k :: place => if i = k then others place else texts (k :: place)

theorem graft_self (texts : Place → String) (i : Nat) :
    graft texts i (fun place => texts (i :: place)) = texts := by
  funext place
  cases place with
  | nil => rfl
  | cons k place =>
    by_cases hk : i = k
    · rw [graft, if_pos hk, hk]
    · rw [graft, if_neg hk]

theorem graft_update (texts : Place → String) (i : Nat) (place : Place) (text : String) :
    graft texts i (Function.update (fun place => texts (i :: place)) place text) =
      Function.update texts (i :: place) text := by
  funext other
  cases other with
  | nil => rfl
  | cons k other =>
    by_cases hk : i = k
    · subst hk
      rw [graft, if_pos rfl]
      by_cases hother : other = place
      · rw [hother, Function.update_self, Function.update_self]
      · have hne : i :: other ≠ i :: place := fun h => hother (List.cons.inj h).2
        rw [Function.update_of_ne hother, Function.update_of_ne hne]
    · have hne : k :: other ≠ i :: place := fun h => hk (List.cons.inj h).1.symm
      rw [graft, if_neg hk, Function.update_of_ne hne]

theorem setChild_fill {j child : Json} {i : Nat} (h : j.child? i = some child)
    (texts others : Place → String) :
    (j.fill texts).setChild i (child.fill others) = j.fill (graft texts i others) := by
  have hself : (fun place => graft texts i others (i :: place)) = others := by
    funext place
    rw [graft, if_pos rfl]
  have hother : ∀ k, i ≠ k →
      (fun place => graft texts i others (k :: place)) = fun place => texts (k :: place) := by
    intro k hk
    funext place
    rw [graft, if_neg hk]
  cases j with
  | array items =>
    have hitem : items[i]? = some child := h
    rw [fill_array, fill_array, setChild]
    refine congrArg array (modify_mapIdx hitem ?_ fun k item hk => ?_)
    · rw [hself]
    · rw [hother k hk]
  | object members =>
    obtain ⟨member, hmember, rfl⟩ := Option.map_eq_some_iff.1 h
    rw [fill_object, fill_object, setChild]
    refine congrArg object (modify_mapIdx hmember ?_ fun k member hk => ?_)
    · rw [hself]
    · rw [hother k hk]
  | _ => cases h

end Json

end FieldSeal

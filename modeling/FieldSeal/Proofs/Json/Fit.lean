import FieldSeal.Json.Reader
import FieldSeal.Proofs.Document.Shape
import Mathlib.Data.String.Basic

/-!
# Documents that fit

**Fit.** A document fits below some levels if it is nested no more deeply, its members stand in
ascending order of their names, and its integers have 64 bits. Everything that is read fits
(`fit_of_value`): the levels were counted, the members were put in order, and the integers were
checked while it was read.

All this is a matter of the shape, so that it passes to every filling (`Fit.fill`). So does that all
numbers are integers (`Integral.fill`).
-/

namespace FieldSeal.Json

/-! ## Documents that can be read -/

/-- What a document may be at a place, when some levels may be entered and some were. -/
def Node.Fits (levels depth : Nat) : Node → Prop
  | .array _ => depth < levels
  | .object names => depth < levels ∧ names.Pairwise (· < ·)
  | .number (.int n) => -((Nat.pow 2 63 : Nat) : Int) ≤ n ∧ n ≤ (wordMax : Int)
  | _ => True

/-- The document can be read when some levels may be entered. -/
def Fit (levels : Nat) (j : Json) : Prop :=
  ∀ place node, j.node? place = some node → node.Fits levels place.length

/-- All numbers are integers. -/
def Integral (j : Json) : Prop :=
  ∀ place n, j.node? place = some (.number n) → ∃ i, n = .int i

variable {j child : Json} {levels : Nat} {items : List Json} {members : List (String × Json)}

theorem Fit.fill (h : Fit levels j) (texts : Place → String) : Fit levels (j.fill texts) := by
  intro place node hnode
  rw [node?_fill] at hnode
  exact h place node hnode

theorem Integral.fill (h : Integral j) (texts : Place → String) : Integral (j.fill texts) := by
  intro place n hnode
  rw [node?_fill] at hnode
  exact h place n hnode

theorem Node.fits_succ_iff {depth : Nat} (node : Node) :
    node.Fits (levels + 1) (depth + 1) ↔ node.Fits levels depth := by
  cases node with
  | number n => cases n <;> rfl
  | array n => exact Nat.add_lt_add_iff_right
  | object names => exact and_congr_left fun _ => Nat.add_lt_add_iff_right
  | _ => rfl

theorem node?_of_child? {i : Nat} (h : j.child? i = some child) (place : Place) :
    j.node? (i :: place) = child.node? place := by
  rw [node?_cons, h, Option.bind_some]

theorem Fit.top (h : Fit levels j) : j.node.Fits levels 0 := h [] j.node rfl

theorem Fit.part (h : Fit (levels + 1) j) {i : Nat} (hchild : j.child? i = some child) :
    Fit levels child := by
  intro place node hnode
  rw [← node?_of_child? hchild] at hnode
  exact (Node.fits_succ_iff node).1 (h _ node hnode)

theorem Integral.part (h : Integral j) {i : Nat} (hchild : j.child? i = some child) :
    Integral child := by
  intro place n hnode
  rw [← node?_of_child? hchild] at hnode
  exact h _ n hnode

theorem fit_of_children (htop : j.node.Fits (levels + 1) 0)
    (h : ∀ i child, j.child? i = some child → Fit levels child) : Fit (levels + 1) j := by
  intro place node hnode
  cases place with
  | nil =>
    cases hnode
    exact htop
  | cons i place =>
    rw [node?_cons, Option.bind_eq_some_iff] at hnode
    obtain ⟨child, hchild, hnode⟩ := hnode
    exact (Node.fits_succ_iff node).2 (h i child hchild place node hnode)

/-- What has no parts needs no levels. -/
theorem fit_of_leaf (htop : j.node.Fits levels 0) (h : ∀ i, j.child? i = none) :
    Fit levels j := by
  intro place node hnode
  cases place with
  | nil =>
    cases hnode
    exact htop
  | cons i place =>
    rw [node?_cons, h, Option.bind_none] at hnode
    cases hnode

theorem exists_child?_of_mem_items {item : Json} (h : item ∈ items) :
    ∃ i, (array items).child? i = some item := by
  obtain ⟨i, hi⟩ := List.getElem?_of_mem h
  exact ⟨i, hi⟩

theorem exists_child?_of_mem_members {member : String × Json} (h : member ∈ members) :
    ∃ i, (object members).child? i = some member.2 := by
  obtain ⟨i, hi⟩ := List.getElem?_of_mem h
  refine ⟨i, ?_⟩
  rw [child?, hi, Option.map_some]

/-! ## What is read fits -/

theorem mem_insertMember {name : String} {value : Json} {member : String × Json}
    (h : member ∈ insertMember name value members) : member = (name, value) ∨ member ∈ members := by
  induction members with
  | nil => exact .inl (List.mem_singleton.1 h)
  | cons first members ih =>
    obtain ⟨n, v⟩ := first
    rw [insertMember] at h
    split at h
    · exact List.mem_cons.1 h
    · split at h
      · rcases List.mem_cons.1 h with h | h
        · exact .inl h
        · exact .inr (List.mem_cons_of_mem _ h)
      · rcases List.mem_cons.1 h with h | h
        · exact .inr (h ▸ List.mem_cons_self)
        · exact (ih h).imp_right (List.mem_cons_of_mem _)

/-- The members stand in ascending order of their names. -/
def Ascending (members : List (String × Json)) : Prop := (members.map Prod.fst).Pairwise (· < ·)

theorem ascending_cons_iff {first : String × Json} :
    Ascending (first :: members) ↔
      (∀ member ∈ members, first.1 < member.1) ∧ Ascending members := by
  rw [Ascending, List.map_cons, List.pairwise_cons, List.forall_mem_map]
  rfl

theorem Ascending.insertMember {name : String} {value : Json} (h : Ascending members) :
    Ascending (insertMember name value members) := by
  induction members with
  | nil => exact ascending_cons_iff.2 ⟨nofun, h⟩
  | cons first members ih =>
    obtain ⟨n, v⟩ := first
    obtain ⟨hfirst, hrest⟩ := ascending_cons_iff.1 h
    rw [Json.insertMember]
    split
    · next hlt =>
      refine ascending_cons_iff.2 ⟨fun member hmember => ?_, h⟩
      rcases List.mem_cons.1 hmember with rfl | hmember
      · exact hlt
      · exact hlt.trans (hfirst member hmember)
    · next hnot =>
      split
      · next heq => exact ascending_cons_iff.2 ⟨heq ▸ hfirst, hrest⟩
      · next hne =>
        refine ascending_cons_iff.2 ⟨fun member hmember => ?_, ih hrest⟩
        rcases mem_insertMember hmember with rfl | hmember
        · exact lt_of_le_of_ne (not_lt.1 hnot) (Ne.symm hne)
        · exact hfirst member hmember

/-- What holds of members put together in ascending order. -/
theorem fit_ofMembers (h : ∀ member ∈ members, Fit levels member.2) :
    Fit (levels + 1) (ofMembers members) := by
  have hfold : ∀ (members done : List (String × Json)),
      (∀ member ∈ members, Fit levels member.2) →
      Ascending done ∧ (∀ member ∈ done, Fit levels member.2) →
        Ascending (members.foldl (fun ms m => insertMember m.1 m.2 ms) done) ∧
          ∀ member ∈ members.foldl (fun ms m => insertMember m.1 m.2 ms) done,
            Fit levels member.2 := by
    intro members
    induction members with
    | nil => exact fun _ _ hdone => hdone
    | cons first members ih =>
      rintro done hmembers ⟨hascending, hdone⟩
      refine ih _ (fun member hmember => hmembers member (List.mem_cons_of_mem _ hmember))
        ⟨hascending.insertMember, fun member hmember => ?_⟩
      rcases mem_insertMember hmember with rfl | hmember
      · exact hmembers first List.mem_cons_self
      · exact hdone member hmember
  obtain ⟨hascending, hfit⟩ := hfold members [] h ⟨List.Pairwise.nil, nofun⟩
  refine fit_of_children ⟨Nat.succ_pos _, hascending⟩ fun i child hchild => ?_
  obtain ⟨member, hmember, rfl⟩ := Option.map_eq_some_iff.1 hchild
  exact hfit member (List.mem_of_getElem? hmember)

/-- What a literal denotes is a fraction or an integer of 64 bits. -/
theorem fits_of_number? {l : Literal} {n : Number} (h : l.number? = some n) :
    (Node.number n).Fits levels 0 := by
  cases n with
  | fraction x => exact trivial
  | int n =>
    obtain ⟨negative, whole, fraction, exponent⟩ := l
    have hword : (0 : Int) ≤ (wordMax : Int) := Int.natCast_nonneg _
    have hpow : ((Nat.pow 2 63 : Nat) : Int) = 2 ^ 63 := by decide
    show -((Nat.pow 2 63 : Nat) : Int) ≤ n ∧ n ≤ (wordMax : Int)
    unfold Literal.number? at h
    cases negative with
    | false =>
      simp only [Bool.false_eq_true, if_false] at h
      split at h
      · next hint =>
        cases h
        omega
      · obtain ⟨_, -, h⟩ := Option.map_eq_some_iff.1 h
        cases h
    | true =>
      simp only [if_true] at h
      split at h
      · next hint =>
        cases h
        omega
      · obtain ⟨_, -, h⟩ := Option.map_eq_some_iff.1 h
        cases h

/-- An array or object is a document only if there was a level to enter. -/
theorem eq_some_of_entered {x : Option Json} {rest rest' : List Token}
    (h : some (if levels = 0 then none else x, rest') = some (some j, rest)) :
    levels ≠ 0 ∧ x = some j := by
  by_cases hlevels : levels = 0
  · rw [if_pos hlevels] at h
    cases h
  · rw [if_neg hlevels] at h
    exact ⟨hlevels, congrArg Prod.fst (Option.some.inj h)⟩

theorem fit_array (hlevels : levels ≠ 0) (h : ∀ item ∈ items, Fit (levels - 1) item) :
    Fit levels (array items) := by
  obtain ⟨below, rfl⟩ := Nat.exists_eq_succ_of_ne_zero hlevels
  refine fit_of_children (Nat.succ_pos _) fun i child hchild => ?_
  exact h child (List.mem_of_getElem? hchild)

/-- What readers of parts read fits, and so does what a reader of values reads. -/
theorem fit_of_value_succ {steps : Nat}
    (hvalues : ∀ levels ts items rest, values steps levels ts = some (some items, rest) →
      ∀ item ∈ items, Fit levels item)
    (hmembers : ∀ levels ts named rest, Json.members steps levels ts = some (some named, rest) →
      ∀ member ∈ named, Fit levels member.2)
    {ts rest : List Token} (h : value (steps + 1) levels ts = some (some j, rest)) :
    Fit levels j := by
  unfold value at h
  split at h
  · cases h
    exact fit_of_leaf trivial fun _ => rfl
  · cases h
    exact fit_of_leaf trivial fun _ => rfl
  · obtain ⟨n, hn, rfl⟩ := Option.map_eq_some_iff.1 (congrArg Prod.fst (Option.some.inj h))
    exact fit_of_leaf (fits_of_number? hn) fun _ => rfl
  · obtain ⟨s, -, rfl⟩ := Option.map_eq_some_iff.1 (congrArg Prod.fst (Option.some.inj h))
    exact fit_of_leaf trivial fun _ => rfl
  · obtain ⟨hlevels, hj⟩ := eq_some_of_entered h
    cases hj
    exact fit_array hlevels nofun
  · split at h
    · next items _ hitems =>
      obtain ⟨hlevels, hj⟩ := eq_some_of_entered h
      obtain ⟨items, rfl, rfl⟩ := Option.map_eq_some_iff.1 hj
      exact fit_array hlevels (hvalues _ _ _ _ hitems)
    · cases h
  · obtain ⟨hlevels, hj⟩ := eq_some_of_entered h
    cases hj
    obtain ⟨below, rfl⟩ := Nat.exists_eq_succ_of_ne_zero hlevels
    exact fit_of_children ⟨Nat.succ_pos _, List.Pairwise.nil⟩ nofun
  · split at h
    · next named _ hnamed =>
      obtain ⟨hlevels, hj⟩ := eq_some_of_entered h
      obtain ⟨named, rfl, rfl⟩ := Option.map_eq_some_iff.1 hj
      obtain ⟨below, rfl⟩ := Nat.exists_eq_succ_of_ne_zero hlevels
      exact fit_ofMembers (hmembers _ _ _ _ hnamed)
    · cases h
  · cases h

/-- Everything that is read fits. -/
theorem fit_of_steps (steps : Nat) :
    (∀ levels ts j rest, value steps levels ts = some (some j, rest) → Fit levels j) ∧
    (∀ levels ts items rest, values steps levels ts = some (some items, rest) →
      ∀ item ∈ items, Fit levels item) ∧
    (∀ levels ts named rest, Json.members steps levels ts = some (some named, rest) →
      ∀ member ∈ named, Fit levels member.2) := by
  induction steps with
  | zero =>
    refine ⟨?_, ?_, ?_⟩
    · intro levels ts j rest h
      unfold value at h
      cases h
    · intro levels ts items rest h
      unfold values at h
      cases h
    · intro levels ts named rest h
      unfold Json.members at h
      cases h
  | succ steps ih =>
    obtain ⟨ihvalue, ihvalues, ihmembers⟩ := ih
    refine ⟨fun _ _ _ _ => fit_of_value_succ ihvalues ihmembers, ?_, ?_⟩
    · intro levels ts items rest h
      unfold values at h
      split at h
      · next x _ hx =>
        obtain ⟨x, rfl, rfl⟩ := Option.map_eq_some_iff.1 (congrArg Prod.fst (Option.some.inj h))
        exact List.forall_mem_singleton.2 (ihvalue _ _ _ _ hx)
      · next x _ hx =>
        split at h
        · next xs _ hxs =>
          obtain ⟨x, rfl, hitems⟩ :=
            Option.bind_eq_some_iff.1 (congrArg Prod.fst (Option.some.inj h))
          obtain ⟨xs, rfl, rfl⟩ := Option.map_eq_some_iff.1 hitems
          exact List.forall_mem_cons.2 ⟨ihvalue _ _ _ _ hx, ihvalues _ _ _ _ hxs⟩
        · cases h
      · cases h
    · intro levels ts named rest h
      unfold Json.members at h
      split at h
      · next heq =>
        cases heq
        split at h
        · next x _ hx =>
          obtain ⟨n, rfl, hnamed⟩ :=
            Option.bind_eq_some_iff.1 (congrArg Prod.fst (Option.some.inj h))
          obtain ⟨x, rfl, rfl⟩ := Option.map_eq_some_iff.1 hnamed
          exact List.forall_mem_singleton.2 (ihvalue _ _ _ _ hx)
        · next x _ hx =>
          split at h
          · next xs _ hxs =>
            obtain ⟨n, rfl, hnamed⟩ :=
              Option.bind_eq_some_iff.1 (congrArg Prod.fst (Option.some.inj h))
            obtain ⟨x, rfl, hnamed⟩ := Option.bind_eq_some_iff.1 hnamed
            obtain ⟨xs, rfl, rfl⟩ := Option.map_eq_some_iff.1 hnamed
            exact List.forall_mem_cons.2 ⟨ihvalue _ _ _ _ hx, ihmembers _ _ _ _ hxs⟩
          · cases h
        · cases h
      · cases h

theorem fit_of_value {steps : Nat} {ts rest : List Token}
    (h : value steps levels ts = some (some j, rest)) : Fit levels j :=
  (fit_of_steps steps).1 levels ts j rest h

end FieldSeal.Json

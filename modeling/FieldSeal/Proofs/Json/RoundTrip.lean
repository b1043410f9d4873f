import FieldSeal.Proofs.Json.Fit
import FieldSeal.Proofs.Json.Spelling

/-!
# Documents are read from their texts

**Theorem (`spells_write`, `isRead`).** The text of a document spells its tokens, and these are read
as the document. The document must be fit to be read, and all its numbers must be integers.

The number of steps is no obstacle, since a document takes no more of them than it has tokens. What
is behind the document is left as it is, so that the parts of a document are read one after another.
-/

namespace FieldSeal.Json

variable {j : Json} {levels : Nat} {items : List Json} {members : List (String × Json)}

/-! ## Members in order -/

/-- Members in ascending order are put behind one another. -/
theorem insertMember_of_lt {name : String} (value : Json)
    (h : ∀ member ∈ members, member.1 < name) :
    insertMember name value members = members ++ [(name, value)] := by
  induction members with
  | nil => rfl
  | cons first members ih =>
    obtain ⟨n, v⟩ := first
    have hn : n < name := h _ List.mem_cons_self
    rw [insertMember, if_neg (lt_asymm hn), if_neg hn.ne',
      ih fun member hmember => h member (List.mem_cons_of_mem _ hmember)]
    rfl

theorem ofMembers_of_ascending (h : Ascending members) : ofMembers members = object members := by
  have hfold : ∀ (members done : List (String × Json)), Ascending (done ++ members) →
      members.foldl (fun ms m => insertMember m.1 m.2 ms) done =
        done ++ members := by
    intro members
    induction members with
    | nil =>
      intro done _
      rw [List.foldl_nil, List.append_nil]
    | cons first members ih =>
      intro done hascending
      have hdone : ∀ member ∈ done, member.1 < first.1 := by
        intro member hmember
        rw [Ascending, List.map_append, List.pairwise_append] at hascending
        exact hascending.2.2 _ (List.mem_map_of_mem hmember) _
          (List.mem_map_of_mem List.mem_cons_self)
      have hinsert : insertMember first.1 first.2 done = done ++ [first] :=
        insertMember_of_lt first.2 hdone
      have hrest := ih (done ++ [first]) (by rwa [List.append_assoc])
      rw [List.foldl_cons]
      show members.foldl _ (insertMember first.1 first.2 done) = _
      rw [hinsert, hrest, List.append_assoc]
      rfl
  rw [ofMembers, hfold members [] h]
  rfl

/-! ## Writing -/

mutual

/-- The tokens of a document whose numbers are integers. -/
def tokensOf : Json → List Token
  | null => [.null]
  | bool b => [.bool b]
  | number (.int n) => [.number (literal (n < 0) n.natAbs)]
  | number (.fraction _) => []
  | string s => [.string (some s)]
  | array items => arrayTokens (tokensOfItems items)
  | object members => objectTokens (tokensOfMembers members)

def tokensOfItems : List Json → List (List Token)
  | [] => []
  | item :: rest => tokensOf item :: tokensOfItems rest

def tokensOfMembers : List (String × Json) → List (String × List Token)
  | [] => []
  | (name, value) :: rest => (name, tokensOf value) :: tokensOfMembers rest

end

theorem tokensOfItems_eq_map (items : List Json) : tokensOfItems items = items.map tokensOf := by
  induction items with
  | nil => rfl
  | cons item rest ih => rw [tokensOfItems, ih, List.map_cons]

theorem tokensOfMembers_eq_map (members : List (String × Json)) :
    tokensOfMembers members = members.map fun m => (m.1, tokensOf m.2) := by
  induction members with
  | nil => rfl
  | cons m rest ih => rw [tokensOfMembers, ih, List.map_cons]

theorem Integral.of_number {n : Number} (h : Integral (number n)) : ∃ i, n = .int i := h [] n rfl

/-- What a document is written as spells its tokens. -/
theorem spells_write (h : Integral j) : Spells j.write (tokensOf j) := by
  induction j using induct with
  | null => exact firm_null.spells
  | bool b =>
    rw [write]
    exact (firm_bool b).spells
  | number n =>
    obtain ⟨i, rfl⟩ := h.of_number
    rw [write, Number.text, tokensOf]
    by_cases hi : i < 0
    · rw [if_pos hi, decide_eq_true hi]
      exact spells_negative _
    · rw [if_neg hi, decide_eq_false hi]
      exact spells_digits _
  | string s =>
    rw [write]
    exact (firm_quote s).spells
  | array items ih =>
    rw [write, tokensOf, writeItems_eq_map, tokensOfItems_eq_map]
    refine (firm_writeArray ?_).spells
    rw [List.forall₂_map_left_iff, List.forall₂_map_right_iff, List.forall₂_same]
    intro item hitem
    obtain ⟨i, hi⟩ := exists_child?_of_mem_items hitem
    exact ih item hitem (h.part hi)
  | object members ih =>
    rw [write, tokensOf, writeMembers_eq_map, tokensOfMembers_eq_map]
    refine (firm_writeObject ?_).spells
    rw [List.forall₂_map_left_iff, List.forall₂_map_right_iff, List.forall₂_same]
    intro member hmember
    obtain ⟨i, hi⟩ := exists_child?_of_mem_members hmember
    exact ⟨rfl, ih member hmember (h.part hi)⟩

/-! ## Reading -/

/-- No document starts with a closing token. -/
theorem exists_tokensOf_eq_cons (h : Integral j) :
    ∃ t ts, tokensOf j = t :: ts ∧ t ≠ .closeArray := by
  cases j with
  | number n =>
    obtain ⟨i, rfl⟩ := h.of_number
    exact ⟨_, _, rfl, nofun⟩
  | _ => exact ⟨_, _, rfl, nofun⟩

theorem number?_literal {n : Int} (h : (Node.number (.int n)).Fits levels 0) :
    (literal (n < 0) n.natAbs).number? = some (.int n) := by
  have hbounds : -((Nat.pow 2 63 : Nat) : Int) ≤ n ∧ n ≤ (wordMax : Int) := h
  have hpow : ((Nat.pow 2 63 : Nat) : Int) = 2 ^ 63 := by decide
  unfold Literal.number? literal
  simp only [numberOf_digits]
  by_cases hn : n < 0
  · simp only [hn, decide_true, if_true]
    rw [if_pos ⟨rfl, rfl, by omega, by omega⟩]
    exact congrArg (fun i => some (Number.int i)) (by omega)
  · simp only [hn, decide_false, Bool.false_eq_true, if_false]
    rw [if_pos ⟨rfl, rfl, by omega, by simp⟩]
    exact congrArg (fun i => some (Number.int i)) (by omega)

/-- The tokens of a document, in front of any others, are read as the document. -/
def IsRead (levels : Nat) (j : Json) : Prop :=
  ∀ steps more, (tokensOf j).length ≤ steps →
    value steps levels (tokensOf j ++ more) = some (some j, more)

theorem joinTokens_cons_cons (ts us : List Token) (rest : List (List Token)) :
    joinTokens (ts :: us :: rest) = ts ++ .comma :: joinTokens (us :: rest) := rfl

/-- Items that are read one by one are read up to the end of an array. -/
theorem values_of_isRead (h : ∀ item ∈ items, IsRead levels item) (hne : items ≠ []) (steps : Nat)
    (more : List Token) (hsteps : (joinTokens (items.map tokensOf)).length < steps) :
    values steps levels (joinTokens (items.map tokensOf) ++ .closeArray :: more) =
      some (some items, more) := by
  induction items generalizing steps with
  | nil => exact absurd rfl hne
  | cons item items ih =>
    obtain ⟨steps, rfl⟩ := Nat.exists_eq_succ_of_ne_zero (Nat.ne_zero_of_lt hsteps)
    have hitem := h item List.mem_cons_self
    cases items with
    | nil =>
      have hfirst : (tokensOf item).length ≤ steps := Nat.le_of_lt_succ hsteps
      show values (steps + 1) levels (tokensOf item ++ .closeArray :: more) = _
      unfold values
      rw [hitem steps _ hfirst]
      rfl
    | cons second items =>
      rw [List.map_cons, List.map_cons, joinTokens_cons_cons, List.length_append,
        List.length_cons] at hsteps
      have hrest := ih (fun other hother => h other (List.mem_cons_of_mem _ hother))
        (List.cons_ne_nil _ _) steps (by rw [List.map_cons]; omega)
      rw [List.map_cons, List.map_cons, joinTokens_cons_cons, List.append_assoc, List.cons_append,
        ← List.map_cons]
      show values (steps + 1) levels _ = _
      unfold values
      rw [hitem steps _ (by omega)]
      simp only [hrest]
      rfl

/-- Members whose values are read one by one are read up to the end of an object. -/
theorem members_of_isRead (h : ∀ member ∈ members, IsRead levels member.2) (hne : members ≠ [])
    (steps : Nat) (more : List Token)
    (hsteps : (joinTokens (members.map fun m => memberTokens m.1 (tokensOf m.2))).length < steps) :
    Json.members steps levels
        (joinTokens (members.map fun m => memberTokens m.1 (tokensOf m.2)) ++ .closeObject :: more) =
      some (some members, more) := by
  induction members generalizing steps with
  | nil => exact absurd rfl hne
  | cons member members ih =>
    obtain ⟨steps, rfl⟩ := Nat.exists_eq_succ_of_ne_zero (Nat.ne_zero_of_lt hsteps)
    have hmember := h member List.mem_cons_self
    cases members with
    | nil =>
      have hfirst : (tokensOf member.2).length ≤ steps := by
        have hlength := Nat.le_of_lt_succ hsteps
        exact (Nat.le_add_right _ 2).trans hlength
      show Json.members (steps + 1) levels
        (.string (some member.1) :: .colon :: (tokensOf member.2 ++ .closeObject :: more)) = _
      unfold Json.members
      simp only [hmember steps _ hfirst]
      rfl
    | cons second members =>
      rw [List.map_cons, List.map_cons, joinTokens_cons_cons, List.length_append,
        List.length_cons] at hsteps
      have hrest := ih (fun other hother => h other (List.mem_cons_of_mem _ hother))
        (List.cons_ne_nil _ _) steps (by rw [List.map_cons]; omega)
      have hfirst : (tokensOf member.2).length ≤ steps := by
        rw [memberTokens, List.length_cons, List.length_cons] at hsteps
        omega
      rw [List.map_cons, List.map_cons, joinTokens_cons_cons, List.append_assoc, List.cons_append,
        ← List.map_cons (f := fun m : String × Json => memberTokens m.1 (tokensOf m.2))]
      show Json.members (steps + 1) levels (.string (some member.1) :: .colon ::
        (tokensOf member.2 ++ .comma :: (joinTokens _ ++ .closeObject :: more))) = _
      unfold Json.members
      simp only [hmember steps _ hfirst, hrest]
      rfl

theorem exists_joinTokens_eq_cons {t : Token} (ts : List Token) (rest : List (List Token)) :
    ∃ us, joinTokens ((t :: ts) :: rest) = t :: us := by
  cases rest with
  | nil => exact ⟨ts, rfl⟩
  | cons second rest => exact ⟨_, rfl⟩

theorem isRead_array (h : ∀ item ∈ items, IsRead levels item)
    (hint : ∀ item ∈ items, Integral item) : IsRead (levels + 1) (array items) := by
  intro steps more hsteps
  rw [tokensOf, tokensOfItems_eq_map, arrayTokens, List.length_cons, List.length_append,
    List.length_singleton] at hsteps
  obtain ⟨steps, rfl⟩ := Nat.exists_eq_succ_of_ne_zero (Nat.ne_zero_of_lt hsteps)
  rw [tokensOf, tokensOfItems_eq_map, arrayTokens, List.cons_append, List.append_assoc]
  cases items with
  | nil => rfl
  | cons item items =>
    have hvalues := values_of_isRead h (List.cons_ne_nil _ _) steps more (by omega)
    obtain ⟨t, ts, hitem, ht⟩ := exists_tokensOf_eq_cons (hint item List.mem_cons_self)
    obtain ⟨us, hjoin⟩ := exists_joinTokens_eq_cons (t := t) ts (items.map tokensOf)
    rw [List.map_cons, hitem, hjoin] at hvalues ⊢
    show value (steps + 1) (levels + 1) (.openArray :: t :: (us ++ .closeArray :: more)) = _
    rw [value]
    · have hbelow : levels + 1 - 1 = levels := rfl
      simp only [hbelow]
      rw [List.cons_append] at hvalues
      simp only [hvalues]
      rfl
    · intro rest hrest
      exact ht (List.cons.inj hrest).1

theorem isRead_object (h : ∀ member ∈ members, IsRead levels member.2)
    (hascending : Ascending members) : IsRead (levels + 1) (object members) := by
  intro steps more hsteps
  have hmap : (tokensOfMembers members).map (fun m => memberTokens m.1 m.2) =
      members.map fun m => memberTokens m.1 (tokensOf m.2) := by
    rw [tokensOfMembers_eq_map, List.map_map]
    rfl
  rw [tokensOf, objectTokens, hmap, List.length_cons, List.length_append,
    List.length_singleton] at hsteps
  obtain ⟨steps, rfl⟩ := Nat.exists_eq_succ_of_ne_zero (Nat.ne_zero_of_lt hsteps)
  rw [tokensOf, objectTokens, hmap, List.cons_append, List.append_assoc]
  cases members with
  | nil => rfl
  | cons member members =>
    have hmembers := members_of_isRead h (List.cons_ne_nil _ _) steps more (by omega)
    obtain ⟨us, hjoin⟩ := exists_joinTokens_eq_cons (t := .string (some member.1))
      (.colon :: tokensOf member.2) (members.map fun m => memberTokens m.1 (tokensOf m.2))
    rw [List.map_cons, memberTokens, hjoin] at hmembers ⊢
    show value (steps + 1) (levels + 1)
      (.openObject :: .string (some member.1) :: (us ++ .closeObject :: more)) = _
    rw [value]
    · have hbelow : levels + 1 - 1 = levels := rfl
      rw [List.cons_append] at hmembers
      simp only [hbelow, hmembers, Option.map_some, ofMembers_of_ascending hascending]
      rfl
    · intro rest hrest
      cases hrest

theorem isRead_leaf {t : Token} (htokens : tokensOf j = [t])
    (h : ∀ steps more, value (steps + 1) levels (t :: more) = some (some j, more)) :
    IsRead levels j := by
  intro steps more hsteps
  rw [htokens, List.length_singleton] at hsteps
  obtain ⟨steps, rfl⟩ := Nat.exists_eq_succ_of_ne_zero (Nat.ne_zero_of_lt hsteps)
  rw [htokens]
  exact h steps more

/-- **Documents are read from their texts.** -/
theorem isRead (hfit : Fit levels j) (hint : Integral j) : IsRead levels j := by
  induction j using induct generalizing levels with
  | null => exact isRead_leaf rfl fun _ _ => rfl
  | bool b => exact isRead_leaf rfl fun _ _ => rfl
  | number n =>
    obtain ⟨i, rfl⟩ := hint.of_number
    refine isRead_leaf rfl fun steps more => ?_
    rw [value, number?_literal hfit.top]
    rfl
  | string s => exact isRead_leaf rfl fun _ _ => rfl
  | array items ih =>
    obtain ⟨levels, rfl⟩ := Nat.exists_eq_succ_of_ne_zero (Nat.ne_zero_of_lt hfit.top)
    have hpart : ∀ item ∈ items, IsRead levels item ∧ Integral item := by
      intro item hitem
      obtain ⟨i, hi⟩ := exists_child?_of_mem_items hitem
      exact ⟨ih item hitem (hfit.part hi) (hint.part hi), hint.part hi⟩
    exact isRead_array (fun item h => (hpart item h).1) fun item h => (hpart item h).2
  | object members ih =>
    obtain ⟨levels, rfl⟩ := Nat.exists_eq_succ_of_ne_zero (Nat.ne_zero_of_lt hfit.top.1)
    refine isRead_object (fun member hmember => ?_) hfit.top.2
    obtain ⟨i, hi⟩ := exists_child?_of_mem_members hmember
    exact ih member hmember (hfit.part hi) (hint.part hi)

end FieldSeal.Json

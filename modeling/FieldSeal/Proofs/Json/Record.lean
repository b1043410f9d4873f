import FieldSeal.Json.Record
import FieldSeal.Proofs.Json.RoundTrip

/-!
# What readers read

**Reading** (`Reads`). A reader reads a value from tokens if it does so in front of any others and
leaves those. A list is read item by item (`reads_list`), and a record member by member: each member
that is met changes the parts that are read (`Record.Steps`), and the last parts are the record
(`Record.reads`).

**Yields** (`Yields`). Whatever a reader reads has a property. A property of parts that every field
keeps holds of the parts of every record that is read, in whichever form it is written
(`Record.yields`).
-/

namespace FieldSeal.Json

/-- The reader reads the value from the tokens, whatever follows. -/
def Reads {α : Type} (read : Reader α) (levels : Nat) (ts : List Token) (x : α) : Prop :=
  ∀ more, read levels (ts ++ more) = .ok (x, more)

/-- Everything that the reader reads has the property. -/
def Yields {α : Type} (read : Reader α) (levels : Nat) (P : α → Prop) : Prop :=
  ∀ ts x rest, read levels ts = .ok (x, rest) → P x

variable {α β π : Type} {read : Reader α} {levels : Nat} {ts : List Token} {x : α}

theorem exists_of_map_eq_ok {ε γ : Type} {f : β → γ} {a : Except ε β} {y : γ}
    (h : a.map f = .ok y) : ∃ x, a = .ok x ∧ f x = y := by
  cases a with
  | error e => cases h
  | ok x =>
    cases h
    exact ⟨x, rfl, rfl⟩

/-! ## Whole texts -/

theorem readStart_of_spells {text : String} (htext : Spells text ts)
    (hread : Reads read levelLimit ts x) : readStart read text = .ok x := by
  have h := hread []
  rw [List.append_nil] at h
  rw [readStart, tokens_of_spells htext, h]
  rfl

theorem readAll_of_spells {text : String} (htext : Spells text ts)
    (hread : Reads read levelLimit ts x) : readAll read text = .ok x := by
  have h := hread []
  rw [List.append_nil] at h
  rw [readAll, tokens_of_spells htext, h]

/-- What is read from a text has what the reader yields. -/
theorem of_readStart {text : String} {P : α → Prop} (h : Yields read levelLimit P)
    (hread : readStart read text = .ok x) : P x := by
  obtain ⟨⟨x, rest⟩, hfound, rfl⟩ := exists_of_map_eq_ok hread
  exact h _ _ rest hfound

namespace Reader

/-! ## Values -/

theorem reads_document {j : Json} (hfit : Fit levels j) (hint : Integral j) :
    Reads document levels (tokensOf j) j := by
  intro more
  have hsteps : (tokensOf j).length ≤ stepBound (tokensOf j ++ more) := by
    rw [stepBound, List.length_append]
    omega
  rw [document, isRead hfit hint _ more hsteps]

theorem yields_document : Yields document levels (Fit levels) := by
  intro ts j rest h
  unfold document at h
  split at h
  · next hvalue =>
    cases h
    exact fit_of_value hvalue
  · cases h

theorem reads_string (s : String) : Reads string levels [.string (some s)] s := fun _ => rfl

theorem reads_boolean (b : Bool) : Reads boolean levels [.bool b] b := fun _ => rfl

theorem reads_natural {n : Nat} (h : n ≤ wordMax) :
    Reads natural levels [.number (literal false n)] n := by
  have hnumber : (literal false n).number? = some (.int n) := by
    have hfits : (Node.number (.int n)).Fits levels 0 := ⟨by omega, by omega⟩
    have hliteral := number?_literal hfits
    rwa [decide_eq_false (by omega), Int.natAbs_natCast] at hliteral
  intro more
  show natural levels (.number (literal false n) :: more) = _
  simp only [natural, hnumber, Int.natCast_nonneg, if_true, Int.toNat_natCast]

theorem yields_natural : Yields natural levels (· ≤ wordMax) := by
  intro ts n rest h
  unfold natural at h
  split at h
  · split at h
    · next i hi =>
      split at h
      · cases h
        have hfits : (Node.number (.int i)).Fits 0 0 := fits_of_number? hi
        have hbounds : -((Nat.pow 2 63 : Nat) : Int) ≤ i ∧ i ≤ (wordMax : Int) := hfits
        omega
      · cases h
    · cases h
    · cases h
  · cases h

theorem reads_optional (hread : Reads read levels ts x) {t : Token} {us : List Token}
    (hts : ts = t :: us) (hnull : t ≠ .null) : Reads (optional read) levels ts (some x) := by
  intro more
  have h := hread more
  subst hts
  rw [List.cons_append] at h ⊢
  unfold optional
  split
  · next heq => exact absurd (List.cons.inj heq).1 hnull
  · rw [h]
    rfl

theorem yields_optional {P : α → Prop} (h : Yields read levels P) :
    Yields (optional read) levels fun x? => ∀ x, x? = some x → P x := by
  intro ts x? rest hread x hx
  subst hx
  unfold optional at hread
  split at hread
  · cases hread
  · obtain ⟨⟨x, rest⟩, hfound, heq⟩ := exists_of_map_eq_ok hread
    cases heq
    exact h _ _ rest hfound

/-! ## Lists -/

/-- The tokens are those of an item, and no end of an array. -/
def Begins (ts : List Token) : Prop := ∃ t us, ts = t :: us ∧ t ≠ .closeArray

theorem reads_elements {tss : List (List Token)} {xs : List α}
    (h : List.Forall₂ (fun ts x => Reads read levels ts x ∧ Begins ts) tss xs) (hne : tss ≠ [])
    (steps : Nat) (hsteps : tss.length ≤ steps) (more : List Token) :
    elements read steps levels (joinTokens tss ++ .closeArray :: more) = .ok (xs, more) := by
  induction h generalizing steps with
  | nil => exact absurd rfl hne
  | @cons ts x tss xs hfirst hrest ih =>
    rw [List.length_cons] at hsteps
    obtain ⟨steps, rfl⟩ := Nat.exists_eq_succ_of_ne_zero (Nat.ne_zero_of_lt hsteps)
    cases hrest with
    | nil =>
      have hread := hfirst.1 (.closeArray :: more)
      show elements read (steps + 1) levels (ts ++ .closeArray :: more) = _
      unfold elements
      rw [hread]
    | @cons us y tss xs hsecond hothers =>
      obtain ⟨t, vs, rfl, ht⟩ := hsecond.2
      have hothersread := ih (List.cons_ne_nil _ _) steps (Nat.le_of_succ_le_succ hsteps)
      obtain ⟨ws, hjoin⟩ := exists_joinTokens_eq_cons (t := t) vs tss
      have hread := hfirst.1 (.comma :: (joinTokens ((t :: vs) :: tss) ++ .closeArray :: more))
      rw [joinTokens_cons_cons, List.append_assoc, List.cons_append]
      rw [hjoin] at hread hothersread ⊢
      show elements read (steps + 1) levels _ = _
      unfold elements
      rw [hread]
      -- The token behind the comma belongs to the next item.
      split
      · next heq => cases heq
      · next heq => cases heq
      · next heq =>
        cases heq
        exact absurd rfl ht
      · next heq =>
        cases heq
        rw [hothersread]
        rfl
      · next hnone heq =>
        cases heq
        exact (hnone _ _ rfl).elim

theorem length_le_joinTokens {tss : List (List Token)} (h : ∀ ts ∈ tss, Begins ts) :
    tss.length ≤ (joinTokens tss).length := by
  induction tss with
  | nil => exact Nat.le_refl _
  | cons ts tss ih =>
    obtain ⟨t, us, rfl, -⟩ := h ts List.mem_cons_self
    cases tss with
    | nil =>
      rw [joinTokens, List.length_cons]
      exact Nat.succ_le_succ (Nat.zero_le _)
    | cons second tss =>
      have hrest := ih fun ts hts => h ts (List.mem_cons_of_mem _ hts)
      rw [joinTokens_cons_cons, List.length_append, List.length_cons]
      simp only [List.length_cons] at hrest ⊢
      omega

theorem begins_of_forall₂ {tss : List (List Token)} {xs : List α}
    (h : List.Forall₂ (fun ts x => Reads read levels ts x ∧ Begins ts) tss xs) :
    ∀ ts ∈ tss, Begins ts := by
  induction h with
  | nil => exact nofun
  | cons hfirst _ ih => exact List.forall_mem_cons.2 ⟨hfirst.2, ih⟩

/-- A list is read if its items are. -/
theorem reads_list {tss : List (List Token)} {xs : List α}
    (h : List.Forall₂ (fun ts x => Reads read levels ts x ∧ Begins ts) tss xs) :
    Reads (list read) (levels + 1) (arrayTokens tss) xs := by
  intro more
  rw [arrayTokens, List.cons_append, List.append_assoc]
  cases h with
  | nil => rfl
  | @cons ts x tss xs hfirst hrest =>
    have hbegin : ∀ us ∈ ts :: tss, Begins us := begins_of_forall₂ (.cons hfirst hrest)
    have hsteps := length_le_joinTokens hbegin
    obtain ⟨t, us, rfl, ht⟩ := hfirst.2
    obtain ⟨vs, hjoin⟩ := exists_joinTokens_eq_cons (t := t) us tss
    have hread := reads_elements (.cons hfirst hrest) (List.cons_ne_nil _ _)
      (joinTokens ((t :: us) :: tss) ++ .closeArray :: more).length
      (by rw [List.length_append]; omega) more
    rw [hjoin] at hread ⊢
    show list read (levels + 1) (.openArray :: t :: (vs ++ .closeArray :: more)) = _
    cases t with
    | closeArray => exact absurd rfl ht
    | _ => exact hread

theorem yields_elements {P : α → Prop} (h : Yields read levels P) (steps : Nat) :
    Yields (elements read steps) levels fun xs => ∀ x ∈ xs, P x := by
  induction steps with
  | zero =>
    intro ts xs rest hread
    cases hread
  | succ steps ih =>
    intro ts xs rest hread
    unfold elements at hread
    split at hread
    · cases hread
    · next x _ hfirst =>
      cases hread
      exact List.forall_mem_singleton.2 (h _ _ _ hfirst)
    · cases hread
    · next x _ _ hfirst =>
      obtain ⟨⟨xs, rest⟩, hrest, heq⟩ := exists_of_map_eq_ok hread
      cases heq
      exact List.forall_mem_cons.2 ⟨h _ _ _ hfirst, ih _ _ rest hrest⟩
    · cases hread

theorem yields_list {P : α → Prop} (h : Yields read levels P) :
    Yields (list read) (levels + 1) fun xs => ∀ x ∈ xs, P x := by
  intro ts xs rest hread
  unfold list at hread
  split at hread
  · cases hread
  · cases hread
    exact nofun
  · next heq =>
    cases heq
    exact yields_elements h _ _ _ _ hread
  · cases hread

end Reader

/-! ## Records -/

/-- Reading a field stores what its reader yields. -/
theorem Field.yields_of {name : String} {part : π → Option β} {store : π → Option β → π}
    {read : Reader β} {P : β → Prop} {Q : π → Prop} (h : Yields read levels P) (parts : π)
    (hstore : ∀ x, P x → Q (store parts (some x))) :
    Yields ((Field.of name part store read).read parts) levels Q := by
  intro ts parts' rest hread
  obtain ⟨⟨x, rest⟩, hfound, heq⟩ := exists_of_map_eq_ok hread
  cases heq
  exact hstore x (h _ _ rest hfound)

namespace Record

variable {r : Record π α} {parts parts' : π} {named : List (String × List Token)}

/-- The members change the parts that are read, one after another. -/
inductive Steps (r : Record π α) (levels : Nat) : π → List (String × List Token) → π → Prop
  | nil {parts : π} : Steps r levels parts [] parts
  | cons {parts parts' parts'' : π} {name : String} {ts : List Token}
    {named : List (String × List Token)}
    (h : ∀ more, r.member name parts levels (.colon :: (ts ++ more)) = .ok (parts', more))
    (rest : Steps r levels parts' named parts'') :
    Steps r levels parts ((name, ts) :: named) parts''

/-- A member that is met for the first time is stored in its part. -/
theorem member_of_reads {name : String} {part : π → Option β} {store : π → Option β → π}
    {read : Reader β} {y : β}
    (hfield : r.fields.find? (·.name == name) = some (.of name part store read))
    (hunset : part parts = none) (hread : Reads read levels ts y) (more : List Token) :
    r.member name parts levels (.colon :: (ts ++ more)) = .ok (store parts (some y), more) := by
  have hset : (Field.of name part store read).isSet parts = false := by
    show (part parts).isSome = false
    rw [hunset, Option.isSome_none]
  unfold member
  simp only [hfield, hset]
  show (read levels (ts ++ more)).map _ = _
  rw [hread more]
  rfl

/-- A setting that may be absent is stored as absent where there is a null. -/
theorem member_of_setting {name : String} {part : π → Option (Option β)}
    {store : π → Option (Option β) → π} {read : Reader β} {ts : β → List Token} (x? : Option β)
    (hfield : r.fields.find? (·.name == name) = some (.of name part store (Reader.optional read)))
    (hunset : part parts = none) (hread : ∀ x, x? = some x → Reads read levels (ts x) x)
    (htokens : ∀ x, ∃ t us, ts x = t :: us ∧ t ≠ .null) (more : List Token) :
    r.member name parts levels (.colon :: ((x?.map ts).getD [.null] ++ more)) =
      .ok (store parts (some x?), more) := by
  cases x? with
  | none => exact member_of_reads hfield hunset (fun _ => rfl) more
  | some x =>
    obtain ⟨t, us, hts, hnull⟩ := htokens x
    exact member_of_reads hfield hunset (Reader.reads_optional (hread x rfl) hts hnull) more

theorem readMembers_of_steps (h : Steps r levels parts named parts') (hne : named ≠ [])
    (steps : Nat) (hsteps : named.length ≤ steps) (more : List Token) :
    r.readMembers steps parts levels
        (joinTokens (named.map fun m => memberTokens m.1 m.2) ++ .closeObject :: more) =
      r.close parts' more := by
  induction h generalizing steps with
  | nil => exact absurd rfl hne
  | @cons parts parts' parts'' name ts named hfirst hrest ih =>
    rw [List.length_cons] at hsteps
    obtain ⟨steps, rfl⟩ := Nat.exists_eq_succ_of_ne_zero (Nat.ne_zero_of_lt hsteps)
    cases hrest with
    | nil =>
      show r.readMembers (steps + 1) parts levels
        (.string (some name) :: .colon :: (ts ++ .closeObject :: more)) = _
      unfold readMembers
      rw [hfirst]
    | @cons _ _ _ second us named hsecond hothers =>
      have hlater := ih (List.cons_ne_nil _ _) steps (Nat.le_of_succ_le_succ hsteps)
      rw [List.map_cons, List.map_cons, joinTokens_cons_cons, List.append_assoc, List.cons_append]
      show r.readMembers (steps + 1) parts levels
        (.string (some name) :: .colon :: (ts ++ .comma :: (joinTokens _ ++ _))) = _
      unfold readMembers
      rw [hfirst]
      exact hlater

/-- A record whose members are read one by one is read. -/
theorem reads (h : Steps r levels r.start named parts') {x : α} (hx : r.finish? parts' = some x) :
    Reads r.read (levels + 1) (objectTokens named) x := by
  intro more
  have hclose : r.close parts' more = .ok (x, more) := by
    unfold close
    rw [hx]
  cases h with
  | nil => exact hclose
  | @cons _ _ _ name ts named hfirst hrest =>
    have hbegin : ∀ us ∈ ((name, ts) :: named).map fun m => memberTokens m.1 m.2,
        Reader.Begins us := by
      intro us hus
      obtain ⟨⟨name, ts⟩, -, rfl⟩ := List.mem_map.1 hus
      exact ⟨_, _, rfl, nofun⟩
    have hsteps := Reader.length_le_joinTokens hbegin
    obtain ⟨us, hjoin⟩ := exists_joinTokens_eq_cons (t := .string (some name)) (.colon :: ts)
      (named.map fun m => memberTokens m.1 m.2)
    have hmembers := readMembers_of_steps (.cons hfirst hrest) (List.cons_ne_nil _ _)
      (joinTokens (((name, ts) :: named).map fun m => memberTokens m.1 m.2) ++
        .closeObject :: more).length
      (by rw [List.length_map] at hsteps; rw [List.length_append]; omega) more
    rw [hclose] at hmembers
    rw [objectTokens, List.cons_append, List.append_assoc]
    have hjoined : joinTokens (((name, ts) :: named).map fun m => memberTokens m.1 m.2) =
        .string (some name) :: us := hjoin
    rw [hjoined] at hmembers ⊢
    exact hmembers

theorem yields_close {P : π → Prop} (hparts : P parts) {rest rest' : List Token} {x : α}
    (h : r.close parts rest = .ok (x, rest')) : ∃ parts, P parts ∧ r.finish? parts = some x := by
  unfold close at h
  split at h
  · next hx =>
    cases h
    exact ⟨parts, hparts, hx⟩
  · cases h

theorem yields_member {P : π → Prop} {name : String} {ts rest : List Token} (hparts : P parts)
    (hread : ∀ field ∈ r.fields, ∀ parts, P parts → Yields (field.read parts) levels P)
    (h : r.member name parts levels ts = .ok (parts', rest)) : P parts' := by
  unfold member at h
  simp only at h
  split at h
  · split at h
    · obtain ⟨⟨_, rest⟩, -, heq⟩ := exists_of_map_eq_ok h
      cases heq
      exact hparts
    · cases h
  · next field hfield =>
    split at h
    · cases h
    · split at h
      · exact hread field (List.mem_of_find?_eq_some hfield) parts hparts _ _ _ h
      · cases h

/-- What every field keeps holds of the parts of a record that is read. -/
theorem yields {P : π → Prop} (hstart : P r.start)
    (hread : ∀ field ∈ r.fields, ∀ parts, P parts → Yields (field.read parts) levels P) :
    Yields r.read (levels + 1) fun x => ∃ parts, P parts ∧ r.finish? parts = some x := by
  have hmembers : ∀ steps parts, P parts →
      Yields (r.readMembers steps parts) levels fun x =>
        ∃ parts, P parts ∧ r.finish? parts = some x := by
    intro steps
    induction steps with
    | zero =>
      intro parts _ ts x rest h
      cases h
    | succ steps ih =>
      intro parts hparts ts x rest h
      unfold readMembers at h
      split at h
      · next heq =>
        cases heq
        split at h
        · cases h
        · next hmember => exact yields_close (yields_member hparts hread hmember) h
        · next hmember => exact ih _ (yields_member hparts hread hmember) _ _ _ h
        · cases h
      · cases h
  have hfields : ∀ fields parts, (∀ field ∈ fields, field ∈ r.fields) → P parts →
      Yields (r.readFields fields parts) levels fun x =>
        ∃ parts, P parts ∧ r.finish? parts = some x := by
    intro fields
    induction fields with
    | nil =>
      intro parts _ _ ts x rest h
      cases h
    | cons field fields ih =>
      intro parts hmem hparts ts x rest h
      obtain ⟨hfield, hothers⟩ := List.forall_mem_cons.1 hmem
      unfold readFields at h
      split at h
      · cases h
      · next hfirst => exact yields_close (hread field hfield parts hparts _ _ _ hfirst) h
      · cases h
      · next hfirst =>
        exact ih _ hothers (hread field hfield parts hparts _ _ _ hfirst) _ _ _ h
      · cases h
  intro ts x rest h
  unfold read at h
  split at h
  · cases h
  · cases h
  · exact yields_close hstart h
  · next heq =>
    cases heq
    exact hmembers _ _ hstart _ _ _ h
  · exact yields_close hstart h
  · next heq =>
    cases heq
    exact hfields _ _ (fun _ hfield => hfield) hstart _ _ _ h
  · cases h

end Record

end FieldSeal.Json

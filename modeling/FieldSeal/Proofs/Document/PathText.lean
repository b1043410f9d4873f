import FieldSeal.Document.Path
import FieldSeal.Proofs.Text.Split

/-!
# Paths and their texts

**Theorem (`Path.texts_of_paths_are_read_back`).** A path whose names can be written as they are is
read back from its text, however its steps to items are spelled. Every text is a path of one step at
least, and a name that ends in brackets stands only where the text has brackets behind brackets.

**Spellings.** `Spells path parts` says that the parts spell the path: each step is a part of its
own, or a step to items stands as brackets behind the name in front of it. A text is read part by
part (`parse_intercalate`), so a spelling is read back by induction on how it was made
(`Spells.flatMap_ofPart`).

**Where names come from.** There are three sorts of parts (`ofPart_cases`). Each gives at most one
name, and gives it first (`ofPart_eq_append_key`), so that each name on a path has a part of the
text to itself.
-/

namespace FieldSeal

/-- What stands for a step to items. -/
def Path.brackets : List Char := "[]".toList

namespace PathStep

/-- The step can be written as it is: a name holds no point and does not end in brackets. -/
def Plain : PathStep → Prop
  | .key name => '.' ∉ name.toList ∧ ¬Path.brackets <:+ name.toList
  | .item => True

instance (step : PathStep) : Decidable step.Plain := by
  cases step <;> unfold Plain <;> infer_instance

/-- The step as a part of its own. -/
def part : PathStep → String
  | .key name => name
  | .item => "[]"

end PathStep

namespace Path

variable {path : Path} {parts : List String} {part : List Char}

/-! ## Parts -/

theorem beforeBrackets?_eq_some_iff {name : List Char} :
    beforeBrackets? part = some name ↔ part = name ++ brackets := by
  unfold beforeBrackets?
  split
  · next rest hreverse =>
    have hpart : part = rest.reverse ++ brackets := by
      rw [List.reverse_eq_cons_iff, List.reverse_cons, List.append_assoc] at hreverse
      exact hreverse
    rw [hpart, Option.some.injEq, List.append_cancel_right_eq]
  · next hother =>
    refine ⟨nofun, ?_⟩
    rintro rfl
    exact absurd List.reverse_append (hother name.reverse)

theorem beforeBrackets?_eq_none_iff : beforeBrackets? part = none ↔ ¬brackets <:+ part := by
  rw [Option.eq_none_iff_forall_ne_some]
  constructor
  · rintro h ⟨name, rfl⟩
    exact h name (beforeBrackets?_eq_some_iff.2 rfl)
  · rintro h name hname
    exact h ⟨name, (beforeBrackets?_eq_some_iff.1 hname).symm⟩

theorem ofPart_of_not_suffix (h : ¬brackets <:+ part) :
    ofPart part = [.key (String.ofList part)] := by
  rw [ofPart, beforeBrackets?_eq_none_iff.2 h]

theorem ofPart_brackets : ofPart brackets = [.item] := rfl

theorem ofPart_append_brackets {name : List Char} (h : name ≠ []) :
    ofPart (name ++ brackets) = [.key (String.ofList name), .item] := by
  rw [ofPart, beforeBrackets?_eq_some_iff.2 rfl]
  cases name with
  | nil => exact absurd rfl h
  | cons c name => rfl

/-- What a part is: a name, brackets, or a name with brackets behind it. -/
theorem ofPart_cases (part : List Char) :
    (¬brackets <:+ part ∧ ofPart part = [.key (String.ofList part)]) ∨
    (part = brackets ∧ ofPart part = [.item]) ∨
    ∃ name, name ≠ [] ∧ part = name ++ brackets ∧
      ofPart part = [.key (String.ofList name), .item] := by
  by_cases h : brackets <:+ part
  · obtain ⟨name, rfl⟩ := h
    by_cases hname : name = []
    · subst hname
      exact .inr (.inl ⟨rfl, ofPart_brackets⟩)
    · exact .inr (.inr ⟨name, hname, rfl, ofPart_append_brackets hname⟩)
  · exact .inl ⟨h, ofPart_of_not_suffix h⟩

theorem ofPart_ne_nil (part : List Char) : ofPart part ≠ [] := by
  rcases ofPart_cases part with ⟨-, h⟩ | ⟨-, h⟩ | ⟨name, -, -, h⟩ <;> rw [h] <;>
    exact List.cons_ne_nil _ _

theorem parse_ne_nil (text : String) : parse text ≠ [] := by
  unfold parse
  cases hsplit : Text.splitChars '.' text.toList with
  | nil => exact absurd hsplit (Text.splitChars_ne_nil _ _)
  | cons part parts =>
    rw [List.flatMap_cons]
    exact List.append_ne_nil_of_left_ne_nil (ofPart_ne_nil part) _

/-- A text of parts is read part by part. -/
theorem parse_intercalate (hne : parts ≠ []) (h : ∀ part ∈ parts, '.' ∉ part.toList) :
    parse (".".intercalate parts) = parts.flatMap fun part => ofPart part.toList := by
  have hpoint : (".").toList = ['.'] := rfl
  have hparts : ∀ part ∈ parts.map String.toList, '.' ∉ part := by
    intro part hpart
    obtain ⟨text, htext, rfl⟩ := List.mem_map.1 hpart
    exact h text htext
  rw [parse, String.toList_intercalate, hpoint,
    Text.splitChars_intercalate (by simpa using hne) hparts, List.flatMap_map]

/-! ## Spellings -/

/-- The parts spell the path. A step to items is a part of its own, or is written behind a name that
is not empty. -/
inductive Spells : Path → List String → Prop
  | nil : Spells [] []
  | step {path : Path} {parts : List String} (step : PathStep) :
    Spells path parts → Spells (step :: path) (step.part :: parts)
  | behind {path : Path} {parts : List String} {name : String} :
    name ≠ "" → Spells path parts → Spells (.key name :: .item :: path) ((name ++ "[]") :: parts)

theorem text_eq (path : Path) : path.text = ".".intercalate (path.map PathStep.part) :=
  rfl

/-- The text of a path is a spelling of it. -/
theorem spells_map_part (path : Path) : Spells path (path.map PathStep.part) := by
  induction path with
  | nil => exact .nil
  | cons step path ih => exact .step step ih

theorem Spells.ne_nil (h : Spells path parts) (hne : path ≠ []) : parts ≠ [] := by
  cases h with
  | nil => exact absurd rfl hne
  | step => exact List.cons_ne_nil _ _
  | behind => exact List.cons_ne_nil _ _

theorem point_notMem_part {step : PathStep} (h : step.Plain) : '.' ∉ step.part.toList := by
  cases step with
  | key name => exact h.1
  | item => decide

theorem ofPart_part {step : PathStep} (h : step.Plain) : ofPart step.part.toList = [step] := by
  cases step with
  | key name =>
    show ofPart name.toList = _
    rw [ofPart_of_not_suffix h.2, String.ofList_toList]
  | item => rfl

theorem Spells.point_notMem (h : Spells path parts) (hplain : ∀ step ∈ path, step.Plain) :
    ∀ part ∈ parts, '.' ∉ part.toList := by
  induction h with
  | nil => exact nofun
  | step step _ ih =>
    obtain ⟨hstep, hrest⟩ := List.forall_mem_cons.1 hplain
    exact List.forall_mem_cons.2 ⟨point_notMem_part hstep, ih hrest⟩
  | @behind _ _ name _ _ ih =>
    obtain ⟨hname, hrest⟩ := List.forall_mem_cons.1 hplain
    refine List.forall_mem_cons.2 ⟨?_, ih (List.forall_mem_cons.1 hrest).2⟩
    have hbrackets : '.' ∉ ("[]").toList := by decide
    rw [String.toList_append, List.mem_append, not_or]
    exact ⟨hname.1, hbrackets⟩

/-- The parts of a spelling give its steps again. -/
theorem Spells.flatMap_ofPart (h : Spells path parts) (hplain : ∀ step ∈ path, step.Plain) :
    (parts.flatMap fun part => ofPart part.toList) = path := by
  induction h with
  | nil => rfl
  | step step _ ih =>
    obtain ⟨hstep, hrest⟩ := List.forall_mem_cons.1 hplain
    rw [List.flatMap_cons, ofPart_part hstep, ih hrest, List.singleton_append]
  | @behind _ _ name hname _ ih =>
    have hrest := (List.forall_mem_cons.1 (List.forall_mem_cons.1 hplain).2).2
    have hpart : ofPart (name ++ "[]").toList = [.key name, .item] := by
      rw [String.toList_append]
      refine (ofPart_append_brackets ?_).trans (by rw [String.ofList_toList])
      simpa using hname
    rw [List.flatMap_cons, hpart, ih hrest, List.cons_append, List.singleton_append]

theorem Spells.parse_eq (h : Spells path parts) (hne : path ≠ [])
    (hplain : ∀ step ∈ path, step.Plain) : parse (".".intercalate parts) = path := by
  rw [parse_intercalate (h.ne_nil hne) (h.point_notMem hplain), h.flatMap_ofPart hplain]

/-! ## Where names come from -/

theorem key_notMem_tail_ofPart (part : List Char) (name : String) :
    .key name ∉ (ofPart part).tail := by
  rcases ofPart_cases part with ⟨-, h⟩ | ⟨-, h⟩ | ⟨rest, -, -, h⟩ <;> rw [h] <;> simp

/-- A part that gives a name gives it first. If the name ends in brackets, the part has brackets
behind it. -/
theorem ofPart_eq_append_key {front back : Path} {name : String}
    (h : ofPart part = front ++ .key name :: back) (hname : brackets <:+ name.toList) :
    front = [] ∧ back = [.item] ∧ part = name.toList ++ brackets := by
  have hfront : front = [] := by
    cases front with
    | nil => rfl
    | cons step front =>
      -- Behind the first step of a part there is no name.
      refine absurd ?_ (key_notMem_tail_ofPart part name)
      rw [h]
      exact List.mem_append_right front List.mem_cons_self
  subst hfront
  rw [List.nil_append] at h
  rcases ofPart_cases part with ⟨hpart, hsteps⟩ | ⟨-, hsteps⟩ | ⟨rest, -, rfl, hsteps⟩
  · rw [hsteps] at h
    cases h
    rw [String.toList_ofList] at hname
    exact absurd hname hpart
  · rw [hsteps] at h
    cases h
  · rw [hsteps] at h
    cases h
    exact ⟨rfl, rfl, by rw [String.toList_ofList]⟩

/-- An item of joined lists is in one of them. -/
theorem exists_of_flatMap_eq_append_cons {α β : Type} {f : α → List β} {as : List α} {b : β}
    {front back : List β} (h : as.flatMap f = front ++ b :: back) :
    ∃ before a after left right, as = before ++ a :: after ∧ f a = left ++ b :: right ∧
      front = before.flatMap f ++ left ∧ back = right ++ after.flatMap f := by
  induction as generalizing front with
  | nil => exact absurd h (List.append_ne_nil_of_right_ne_nil _ (List.cons_ne_nil _ _)).symm
  | cons a as ih =>
    rw [List.flatMap_cons, List.append_eq_append_iff] at h
    rcases h with ⟨rest, hfront, hrest⟩ | ⟨rest, ha, hrest⟩
    · obtain ⟨before, a', after, left, right, rfl, ha', rfl, hback⟩ := ih hrest
      refine ⟨a :: before, a', after, left, right, rfl, ha', ?_, hback⟩
      rw [hfront, List.flatMap_cons, List.append_assoc]
    · cases rest with
      | nil =>
        -- The item is the first behind the list of `a`, so it belongs to the lists that follow.
        have hnext : as.flatMap f = [] ++ b :: back := hrest.symm
        obtain ⟨before, a', after, left, right, rfl, ha', hleft, hback⟩ := ih hnext
        refine ⟨a :: before, a', after, left, right, rfl, ha', ?_, hback⟩
        rw [List.append_nil] at ha
        rw [List.flatMap_cons, List.append_assoc, ← hleft, List.append_nil, ha]
      | cons b' rest =>
        rw [List.cons_append, List.cons.injEq] at hrest
        obtain ⟨rfl, hback⟩ := hrest
        exact ⟨[], a, as, front, rest, rfl, ha, rfl, hback⟩

/-- **The texts of paths are read back.** Let the names on a path hold no point and not end in
brackets, and let it have a step. Then the path is read back from its text, and just so from every
other spelling of it. Reading any text gives a step at least. A name that ends in brackets is read
only from a part that is the name with brackets behind it, which therefore ends in doubled
brackets. -/
theorem texts_of_paths_are_read_back :
    (∀ path : Path, path ≠ [] → (∀ step ∈ path, step.Plain) →
      parse path.text = path ∧ ∀ parts, Spells path parts → parse (".".intercalate parts) = path) ∧
    ∀ text : String, parse text ≠ [] ∧
      ∀ front name back, parse text = front ++ .key name :: back → brackets <:+ name.toList →
        ∃ before part after, Text.splitChars '.' text.toList = before ++ part :: after ∧
          part = name.toList ++ brackets ∧ brackets ++ brackets <:+ part ∧
          front = before.flatMap ofPart ∧ back = .item :: after.flatMap ofPart := by
  refine ⟨fun path hne hplain => ⟨?_, fun parts h => h.parse_eq hne hplain⟩,
    fun text => ⟨parse_ne_nil text, ?_⟩⟩
  · rw [text_eq]
    exact (spells_map_part path).parse_eq hne hplain
  · intro front name back htext hname
    obtain ⟨before, part, after, left, right, hparts, hpart, hfront, hback⟩ :=
      exists_of_flatMap_eq_append_cons htext
    obtain ⟨rfl, rfl, rfl⟩ := ofPart_eq_append_key hpart hname
    rw [List.append_nil] at hfront
    refine ⟨before, _, after, hparts, rfl, ?_, hfront, hback⟩
    obtain ⟨rest, hrest⟩ := hname
    exact ⟨rest, by rw [← hrest, List.append_assoc]⟩

/-- Both spellings of steps to items on one path, with an empty name and brackets inside a name. The
last text has doubled brackets in its second part. -/
theorem mixed_spellings_are_read_back :
    let path : Path := [.key "orders", .item, .key "", .item, .item, .key "a[]b"]
    path ≠ [] ∧ (∀ step ∈ path, step.Plain) ∧ parse path.text = path ∧
      parse (".".intercalate ["orders[]", "", "[]", "[]", "a[]b"]) = path ∧
      parse "x.y[][].z" = [.key "x"] ++ .key "y[]" :: [.item, .key "z"] ∧
      ∃ before part after, Text.splitChars '.' "x.y[][].z".toList = before ++ part :: after ∧
        brackets ++ brackets <:+ part ∧ [.key "x"] = before.flatMap ofPart := by
  intro path
  have hne : path ≠ [] := List.cons_ne_nil _ _
  have hplain : ∀ step ∈ path, step.Plain := by decide
  have hspells : Spells path ["orders[]", "", "[]", "[]", "a[]b"] :=
    .behind (by decide) (.step (.key "") (.step .item (.step .item (.step (.key "a[]b") .nil))))
  have hread : parse "x.y[][].z" = [.key "x"] ++ .key "y[]" :: [.item, .key "z"] := by
    decide +kernel
  obtain ⟨hpaths, htexts⟩ := texts_of_paths_are_read_back
  obtain ⟨before, part, after, hparts, -, hbrackets, hfront, -⟩ :=
    (htexts _).2 _ _ _ hread (by decide)
  exact ⟨hne, hplain, (hpaths path hne hplain).1, (hpaths path hne hplain).2 _ hspells, hread,
    before, part, after, hparts, hbrackets, hfront⟩

end Path

end FieldSeal

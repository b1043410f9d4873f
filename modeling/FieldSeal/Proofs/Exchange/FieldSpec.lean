import FieldSeal.Exchange.FieldSpec
import FieldSeal.Proofs.Json.Record
import Mathlib.Data.List.Nodup
import Mathlib.Data.List.Perm.Basic

/-!
# Specifications survive their texts

**Theorem (`specification_survives_its_texts`).** A specification whose numbers have 64 bits is read
from the text as which it is written. It is also read from every other object of its members: they may
stand in any order, and a setting that is not overridden may be null as well as left out. So both sides
of an exchange agree whether the rule is a custom one, and they resolve it alike.

**Order.** A null is read as a setting that is not overridden, just like no member at all. So what is
read after some members is known from their names (`FieldSpec.partsAt`), and each of them adds its own
(`FieldSpec.member_partsAt`).

All specifications that are read have numbers of 64 bits (`FieldSpec.yields_reader`).
-/

namespace FieldSeal

open Json

/-! ## Members -/

/-- The members that are there. -/
def given {α : Type} (members : List (String × Option α)) : List (String × α) :=
  members.filterMap fun (name, x?) => x?.map fun x => (name, x)

/-- A member that is not there is null, if its name is among `nulls`. -/
def orNull {α : Type} (null : α) (nulls : String → Bool) (member : String × Option α) :
    String × Option α :=
  (member.1, member.2.or (if nulls member.1 then some null else none))

/-- A text spells tokens, or neither is there. -/
def SpellsMember (m : String × Option String) (ts : String × Option (List Token)) : Prop :=
  m.1 = ts.1 ∧ Option.Rel Spells m.2 ts.2

section Members

variable {α : Type} {members : List (String × Option α)} {name : String} {x null : α}
  {nulls : String → Bool} {texts : List (String × Option String)}
  {tokens : List (String × Option (List Token))}

theorem mem_given_iff : (name, x) ∈ given members ↔ (name, some x) ∈ members := by
  simp [given]

theorem map_fst_given_sublist (members : List (String × Option α)) :
    ((given members).map Prod.fst).Sublist (members.map Prod.fst) := by
  induction members with
  | nil => exact .slnil
  | cons m members ih =>
    obtain ⟨name, x?⟩ := m
    cases x? with
    | none => exact ih.cons name
    | some x => exact ih.cons_cons name

theorem map_fst_orNull (null : α) (nulls : String → Bool) (members : List (String × Option α)) :
    (members.map (orNull null nulls)).map Prod.fst = members.map Prod.fst := by
  rw [List.map_map]
  rfl

theorem map_orNull_false (null : α) (members : List (String × Option α)) :
    members.map (orNull null fun _ => false) = members := by
  refine (List.map_congr_left fun m _ => ?_).trans members.map_id
  exact Prod.ext rfl (Option.or_none)

/-- A member of an object is one that is there, or a null for one that is not. -/
theorem exists_of_mem_orNull (h : (name, x) ∈ given (members.map (orNull null nulls))) :
    ∃ x?, (name, x?) ∈ members ∧ x = x?.getD null := by
  obtain ⟨⟨name, x?⟩, hmem, heq⟩ := List.mem_map.1 (mem_given_iff.1 h)
  obtain ⟨rfl, hx⟩ := Prod.mk.inj heq
  refine ⟨x?, hmem, ?_⟩
  cases x? with
  | some y => exact (Option.some.inj hx).symm
  | none =>
    change (if nulls name then some null else none) = some x at hx
    split at hx
    · exact (Option.some.inj hx).symm
    · cases hx

/-- A member that is there is never replaced by a null. -/
theorem mem_orNull_of_mem (null : α) (nulls : String → Bool) (h : (name, some x) ∈ members) :
    (name, x) ∈ given (members.map (orNull null nulls)) :=
  mem_given_iff.2 (List.mem_map.2 ⟨_, h, rfl⟩)

theorem forall₂_given (h : List.Forall₂ SpellsMember texts tokens) :
    List.Forall₂ (fun m ts => m.1 = ts.1 ∧ Spells m.2 ts.2) (given texts) (given tokens) := by
  induction h with
  | nil => exact .nil
  | @cons m ts texts tokens hfirst _ ih =>
    obtain ⟨name, text?⟩ := m
    obtain ⟨name', ts?⟩ := ts
    obtain ⟨hname, hspells⟩ := hfirst
    cases hspells with
    | none => exact ih
    | some hspells => exact .cons ⟨hname, hspells⟩ ih

theorem forall₂_orNull (h : List.Forall₂ SpellsMember texts tokens) (nulls : String → Bool) :
    List.Forall₂ SpellsMember (texts.map (orNull "null" nulls))
      (tokens.map (orNull [.null] nulls)) := by
  rw [List.forall₂_map_left_iff, List.forall₂_map_right_iff]
  refine h.imp ?_
  rintro ⟨name, text?⟩ ⟨name, ts?⟩ ⟨rfl, hspells⟩
  refine ⟨rfl, ?_⟩
  cases hspells with
  | some hspells => exact .some hspells
  | none =>
    simp only [orNull, Option.none_or]
    split
    · exact .some firm_null.spells
    · exact .none

end Members

namespace FieldSpec

/-- The numbers of the specification have 64 bits. -/
structure Bounded (spec : FieldSpec) : Prop where
  keepStart : ∀ n, spec.keepStart? = some n → n ≤ wordMax
  keepEnd : ∀ n, spec.keepEnd? = some n → n ≤ wordMax

variable {spec : FieldSpec} {levels : Nat}

/-! ## Texts -/

/-- The members of a specification; the settings that are not overridden have no text. -/
def members (spec : FieldSpec) : List (String × Option String) :=
  [("path", some (quote spec.path)),
    ("type", some (quote spec.kind)),
    ("prefix", spec.keepStart?.map toString),
    ("suffix", spec.keepEnd?.map toString),
    ("regex", spec.pattern?.map quote),
    ("must_match", spec.mustMatch?.map fun b => (Json.bool b).write)]

/-- The text is an object of the members of the specification in some order, and some of the settings
that are not overridden are null in it. -/
def WrittenAs (spec : FieldSpec) (text : String) : Prop :=
  ∃ nulls named, named.Perm (given (spec.members.map (orNull "null" nulls))) ∧
    text = writeObject named

theorem writtenAs_write (spec : FieldSpec) : spec.WrittenAs spec.write := by
  refine ⟨fun _ => false, given spec.members, ?_, rfl⟩
  rw [map_orNull_false]

/-- The tokens of the members of a specification. -/
def namedTokens (spec : FieldSpec) : List (String × Option (List Token)) :=
  [("path", some [.string (some spec.path)]),
    ("type", some [.string (some spec.kind)]),
    ("prefix", spec.keepStart?.map fun n => [.number (literal false n)]),
    ("suffix", spec.keepEnd?.map fun n => [.number (literal false n)]),
    ("regex", spec.pattern?.map fun s => [.string (some s)]),
    ("must_match", spec.mustMatch?.map fun b => [.bool b])]

/-- The tokens of a specification. -/
def tokens (spec : FieldSpec) : List Token := objectTokens (given spec.namedTokens)

theorem begins_tokens (spec : FieldSpec) : Reader.Begins spec.tokens := ⟨_, _, rfl, nofun⟩

theorem rel_map {α : Type} (x? : Option α) {text : α → String} {ts : α → List Token}
    (h : ∀ x, Spells (text x) (ts x)) : Option.Rel Spells (x?.map text) (x?.map ts) := by
  cases x? with
  | none => exact .none
  | some x => exact .some (h x)

theorem spells_members (spec : FieldSpec) :
    List.Forall₂ SpellsMember spec.members spec.namedTokens := by
  have hnumber : ∀ n? : Option Nat, Option.Rel Spells (n?.map toString)
      (n?.map fun n => [.number (literal false n)]) := fun n? => rel_map n? spells_digits
  have hflag : ∀ b : Bool, Spells (Json.bool b).write [.bool b] := by
    intro b
    rw [Json.write]
    exact (firm_bool b).spells
  refine .cons ⟨rfl, ?_⟩ (.cons ⟨rfl, ?_⟩ (.cons ⟨rfl, ?_⟩ (.cons ⟨rfl, ?_⟩
    (.cons ⟨rfl, ?_⟩ (.cons ⟨rfl, ?_⟩ .nil)))))
  · exact .some (firm_quote spec.path).spells
  · exact .some (firm_quote spec.kind).spells
  · exact hnumber spec.keepStart?
  · exact hnumber spec.keepEnd?
  · exact rel_map spec.pattern? fun s => (firm_quote s).spells
  · exact rel_map spec.mustMatch? hflag

theorem firm_write (spec : FieldSpec) : Firm spec.write spec.tokens :=
  firm_writeObject (forall₂_given spec.spells_members)

/-- An object of the members spells their tokens, in the same order and with the same nulls. -/
theorem exists_tokens_of_writtenAs {text : String} (h : spec.WrittenAs text) :
    ∃ nulls named, named.Perm (given (spec.namedTokens.map (orNull [.null] nulls))) ∧
      Firm text (objectTokens named) := by
  obtain ⟨nulls, texts, hperm, rfl⟩ := h
  obtain ⟨named, hspells, hnamed⟩ := List.perm_comp_forall₂ hperm
    (forall₂_given (forall₂_orNull spec.spells_members nulls))
  exact ⟨nulls, named, hnamed, firm_writeObject hspells⟩

/-! ## Reading -/

/-- The parts of the specification once the members of these names are read. A setting that is read
without being overridden is read as absent. -/
def partsAt (spec : FieldSpec) (seen : List String) : Parts where
  path := if "path" ∈ seen then some spec.path else none
  kind := if "type" ∈ seen then some spec.kind else none
  keepStart := if "prefix" ∈ seen then some spec.keepStart? else none
  keepEnd := if "suffix" ∈ seen then some spec.keepEnd? else none
  pattern := if "regex" ∈ seen then some spec.pattern? else none
  mustMatch := if "must_match" ∈ seen then some spec.mustMatch? else none

theorem partsAt_congr {seen seen' : List String} (h : ∀ name, name ∈ seen ↔ name ∈ seen') :
    spec.partsAt seen = spec.partsAt seen' := by
  simp only [partsAt, h]

/-- Every member adds its own part, whichever were read before. -/
theorem member_partsAt (h : spec.Bounded) {m : String × Option (List Token)}
    (hm : m ∈ spec.namedTokens) {seen : List String} (hnew : m.1 ∉ seen) (more : List Token) :
    record.member m.1 (spec.partsAt seen) levels (.colon :: (m.2.getD [.null] ++ more)) =
      .ok (spec.partsAt (m.1 :: seen), more) := by
  have hpath : record.fields.find? (·.name == "path") =
    some (.of "path" (·.path) (fun p v => { p with path := v }) Reader.string) := rfl
  have hkind : record.fields.find? (·.name == "type") =
    some (.of "type" (·.kind) (fun p v => { p with kind := v }) Reader.string) := rfl
  have hstart : record.fields.find? (·.name == "prefix") = some (.of "prefix" (·.keepStart)
    (fun p v => { p with keepStart := v }) (Reader.optional Reader.natural)) := rfl
  have hend : record.fields.find? (·.name == "suffix") = some (.of "suffix" (·.keepEnd)
    (fun p v => { p with keepEnd := v }) (Reader.optional Reader.natural)) := rfl
  have hpattern : record.fields.find? (·.name == "regex") = some (.of "regex" (·.pattern)
    (fun p v => { p with pattern := v }) (Reader.optional Reader.string)) := rfl
  have hmatch : record.fields.find? (·.name == "must_match") = some (.of "must_match" (·.mustMatch)
    (fun p v => { p with mustMatch := v }) (Reader.optional Reader.boolean)) := rfl
  simp only [namedTokens, List.mem_cons, List.not_mem_nil, or_false] at hm
  rcases hm with rfl | rfl | rfl | rfl | rfl | rfl
  · refine (Record.member_of_reads hpath (if_neg hnew) (Reader.reads_string spec.path) more).trans ?_
    simp [partsAt]
  · refine (Record.member_of_reads hkind (if_neg hnew) (Reader.reads_string spec.kind) more).trans ?_
    simp [partsAt]
  · refine (Record.member_of_setting spec.keepStart? hstart (if_neg hnew)
      (fun n hn => Reader.reads_natural (h.keepStart n hn)) (fun n => ⟨_, _, rfl, nofun⟩) more).trans ?_
    simp [partsAt]
  · refine (Record.member_of_setting spec.keepEnd? hend (if_neg hnew)
      (fun n hn => Reader.reads_natural (h.keepEnd n hn)) (fun n => ⟨_, _, rfl, nofun⟩) more).trans ?_
    simp [partsAt]
  · refine (Record.member_of_setting spec.pattern? hpattern (if_neg hnew)
      (fun s _ => Reader.reads_string s) (fun s => ⟨_, _, rfl, nofun⟩) more).trans ?_
    simp [partsAt]
  · refine (Record.member_of_setting spec.mustMatch? hmatch (if_neg hnew)
      (fun b _ => Reader.reads_boolean b) (fun b => ⟨_, _, rfl, nofun⟩) more).trans ?_
    simp [partsAt]

/-- Members of different names are read in whatever order they stand. -/
theorem steps_partsAt (h : spec.Bounded) {named : List (String × List Token)}
    (hmem : ∀ m ∈ named, ∃ ts?, (m.1, ts?) ∈ spec.namedTokens ∧ m.2 = ts?.getD [.null])
    {seen : List String} (hnodup : (named.map Prod.fst ++ seen).Nodup) :
    Record.Steps record levels (spec.partsAt seen) named
      (spec.partsAt (named.map Prod.fst ++ seen)) := by
  induction named generalizing seen with
  | nil => exact .nil
  | cons m named ih =>
    obtain ⟨name, ts⟩ := m
    obtain ⟨⟨ts?, hfirst, rfl⟩, hothers⟩ := List.forall_mem_cons.1 hmem
    have hmove : (name :: (named.map Prod.fst ++ seen)).Perm (named.map Prod.fst ++ name :: seen) :=
      List.perm_middle.symm
    have hnew : name ∉ seen := fun hseen =>
      (List.nodup_cons.1 hnodup).1 (List.mem_append_right _ hseen)
    have hrest := ih hothers (hmove.nodup hnodup)
    rw [partsAt_congr fun other => (hmove.mem_iff (a := other)).symm] at hrest
    exact .cons (member_partsAt h hfirst hnew) hrest

/-- Once all members that are there are read, the specification is complete. -/
theorem finish?_partsAt {seen : List String}
    (hseen : ∀ name ts, (name, some ts) ∈ spec.namedTokens → name ∈ seen) :
    record.finish? (spec.partsAt seen) = some spec := by
  have hpath : "path" ∈ seen := hseen _ _ (.head _)
  have hkind : "type" ∈ seen := hseen _ _ (.tail _ (.head _))
  have hjoin : ∀ {α : Type} (x? : Option α) (ts : α → List Token) (name : String),
      (name, x?.map ts) ∈ spec.namedTokens → (if name ∈ seen then some x? else none).join = x? := by
    intro α x? ts name hmem
    cases x? with
    | none => split <;> rfl
    | some x =>
      rw [if_pos (hseen name (ts x) hmem)]
      rfl
  have hstart := hjoin spec.keepStart? (fun n => [.number (literal false n)]) "prefix"
    (by simp [namedTokens])
  have hend := hjoin spec.keepEnd? (fun n => [.number (literal false n)]) "suffix"
    (by simp [namedTokens])
  have hpattern := hjoin spec.pattern? (fun s => [.string (some s)]) "regex" (by simp [namedTokens])
  have hmatch := hjoin spec.mustMatch? (fun b => [.bool b]) "must_match" (by simp [namedTokens])
  simp only [record, partsAt, if_pos hpath, if_pos hkind, hstart, hend, hpattern, hmatch]
  rfl

/-- A specification is read from its members in any order, with any nulls. -/
theorem reads_of_perm (h : spec.Bounded) {nulls : String → Bool}
    {named : List (String × List Token)}
    (hperm : named.Perm (given (spec.namedTokens.map (orNull [.null] nulls)))) :
    Reads reader (levels + 1) (objectTokens named) spec := by
  have hnames : (named.map Prod.fst).Nodup := by
    have hall : (spec.namedTokens.map Prod.fst).Nodup := by
      show ["path", "type", "prefix", "suffix", "regex", "must_match"].Nodup
      decide
    rw [← map_fst_orNull [.null] nulls] at hall
    exact (hperm.map Prod.fst).nodup_iff.2 (hall.sublist (map_fst_given_sublist _))
  have hmem : ∀ m ∈ named, ∃ ts?, (m.1, ts?) ∈ spec.namedTokens ∧ m.2 = ts?.getD [.null] :=
    fun m hm => exists_of_mem_orNull (hperm.mem_iff.1 hm)
  have hsteps : Record.Steps record levels record.start named
      (spec.partsAt (named.map Prod.fst ++ [])) :=
    steps_partsAt h hmem (by rwa [List.append_nil])
  refine Record.reads hsteps (finish?_partsAt fun name ts hthere => ?_)
  have hnamed := hperm.mem_iff.2 (mem_orNull_of_mem [.null] nulls hthere)
  rw [List.append_nil]
  exact List.mem_map_of_mem hnamed

/-- A specification is read from its tokens. -/
theorem reads_tokens (h : spec.Bounded) : Reads reader (levels + 1) spec.tokens spec := by
  have hperm : (given spec.namedTokens).Perm
      (given (spec.namedTokens.map (orNull [.null] fun _ => false))) := by
    rw [map_orNull_false]
  exact reads_of_perm h hperm

/-- A specification whose numbers have 64 bits is read from the text as which it is written, and from
every other object of its members, in any order and with nulls for any settings that are not overridden.
So the verdict whether its rule is a custom one, and the rule or the error, are the same on both sides
of an exchange. -/
theorem specification_survives_its_texts (h : spec.Bounded) :
    spec.WrittenAs spec.write ∧
    ∀ text, spec.WrittenAs text →
      readAll reader text = .ok spec ∧
      (readAll reader text).map isCustom = .ok spec.isCustom ∧
      (readAll reader text).map resolve = .ok spec.resolve := by
  refine ⟨spec.writtenAs_write, fun text htext => ?_⟩
  obtain ⟨nulls, named, hperm, hfirm⟩ := exists_tokens_of_writtenAs htext
  have hread : readAll reader text = .ok spec :=
    readAll_of_spells hfirm.spells (reads_of_perm h hperm)
  rw [hread]
  exact ⟨rfl, rfl, rfl⟩

/-- All characters are escaped where they must be, the number is the greatest of 64 bits, the members
stand in the opposite order, and one setting is null. -/
theorem reversed_members_are_read :
    let spec : FieldSpec :=
      { path := "a\"\\\n\x00é😀[].b", kind := "custom", keepEnd? := some wordMax,
        mustMatch? := some false }
    let text := writeObject [("must_match", "false"), ("regex", "null"),
      ("suffix", toString wordMax), ("type", quote spec.kind), ("path", quote spec.path)]
    spec.Bounded ∧ readAll reader text = .ok spec := by
  intro spec text
  have hbounded : spec.Bounded := ⟨nofun, fun n hn => (Option.some.inj hn).ge⟩
  have htext : spec.WrittenAs text := by
    refine ⟨(· == "regex"), (given (spec.members.map (orNull "null" (· == "regex")))).reverse,
      List.reverse_perm _, ?_⟩
    simp only [members, given, spec, Json.write]
    rfl
  exact ⟨hbounded, ((specification_survives_its_texts hbounded).2 text htext).1⟩

/-! ## What is read -/

/-- The numbers that are read have 64 bits. -/
structure Parts.Bounded (parts : Parts) : Prop where
  keepStart : ∀ n, parts.keepStart = some (some n) → n ≤ wordMax
  keepEnd : ∀ n, parts.keepEnd = some (some n) → n ≤ wordMax

/-- A record is complete only with a path and a kind; its numbers are those that were read. -/
theorem bounded_of_finish? {parts : Parts} (hparts : parts.Bounded)
    (h : record.finish? parts = some spec) : spec.Bounded := by
  obtain ⟨path, -, h⟩ := Option.bind_eq_some_iff.1 h
  obtain ⟨kind, -, h⟩ := Option.bind_eq_some_iff.1 h
  cases h
  exact ⟨fun n hn => hparts.keepStart n (Option.join_eq_some_iff.1 hn),
    fun n hn => hparts.keepEnd n (Option.join_eq_some_iff.1 hn)⟩

/-- Every specification that is read has bounded numbers. -/
theorem yields_reader : Yields reader (levels + 1) Bounded := by
  have hany : ∀ {α : Type} (read : Reader α), Yields read levels fun _ => True :=
    fun _ _ _ _ _ => trivial
  have hnumber : Yields (Reader.optional Reader.natural) levels fun n? =>
      ∀ n, n? = some n → n ≤ wordMax := Reader.yields_optional Reader.yields_natural
  have hfields : ∀ field ∈ record.fields, ∀ parts, Parts.Bounded parts →
      Yields (field.read parts) levels Parts.Bounded := by
    intro field hfield parts hparts
    simp only [record, List.mem_cons, List.not_mem_nil, or_false] at hfield
    rcases hfield with rfl | rfl | rfl | rfl | rfl | rfl
    · exact Field.yields_of (hany _) parts fun _ _ => ⟨hparts.keepStart, hparts.keepEnd⟩
    · exact Field.yields_of (hany _) parts fun _ _ => ⟨hparts.keepStart, hparts.keepEnd⟩
    · exact Field.yields_of hnumber parts fun n? hn => ⟨fun n h => hn n (Option.some.inj h),
        hparts.keepEnd⟩
    · exact Field.yields_of hnumber parts fun n? hn => ⟨hparts.keepStart, fun n h =>
        hn n (Option.some.inj h)⟩
    · exact Field.yields_of (hany _) parts fun _ _ => ⟨hparts.keepStart, hparts.keepEnd⟩
    · exact Field.yields_of (hany _) parts fun _ _ => ⟨hparts.keepStart, hparts.keepEnd⟩
  intro ts spec rest hread
  obtain ⟨parts, hparts, hspec⟩ := Record.yields ⟨nofun, nofun⟩ hfields ts spec rest hread
  exact bounded_of_finish? hparts hspec

end FieldSpec

end FieldSeal

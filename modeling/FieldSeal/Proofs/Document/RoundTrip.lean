import FieldSeal.Proofs.Document.Rules
import FieldSeal.Proofs.Session.Basic

/-!
# Documents are restored

**Theorem (`revealing_restores_document`).** If rules protected a document, then the same rules reveal
exactly this document, whatever was done with the codec in between. A text that several rules reach
is sealed as often as it is reached, and each of these rules opens it once.

**Layers** (`Layers`). The state of a text between two visits is the number of times it is sealed.
Protecting adds a layer (`layers_protect`), revealing takes one off (`layers_reveal`), and neither
touches an empty text. What a text looks like plays no part, so one that starts like an envelope is
treated like any other.
-/

namespace FieldSeal

/-- The text is found behind `n` layers. An empty text is never wrapped and stays empty however many
layers are asked for. -/
inductive Layers (opens : String → String → Prop) : Nat → (wire text : String) → Prop
  | bare {text : String} : Layers opens 0 text text
  | empty {n : Nat} : Layers opens n "" ""
  | wrapped {n : Nat} {wire inner text : String} (h : opens wire inner) (hinner : inner ≠ "")
    (rest : Layers opens n inner text) : Layers opens (n + 1) wire text

namespace Layers

variable {opens opens' : String → String → Prop} {n : Nat} {wire text : String}

theorem mono (h : Layers opens n wire text) (himp : ∀ {w t}, opens w t → opens' w t) :
    Layers opens' n wire text := by
  induction h with
  | bare => exact .bare
  | empty => exact .empty
  | wrapped hopens hinner _ ih => exact .wrapped (himp hopens) hinner ih

theorem eq_of_zero (h : Layers opens 0 wire text) : wire = text := by
  cases h with
  | bare => rfl
  | empty => rfl

theorem of_succ (h : Layers opens (n + 1) wire text) :
    wire = "" ∧ text = "" ∨ ∃ inner, opens wire inner ∧ Layers opens n inner text := by
  cases h with
  | empty => exact .inl ⟨rfl, rfl⟩
  | wrapped h _ rest => exact .inr ⟨_, h, rest⟩

theorem eq_empty (h : Layers opens n "" text) (hopens : ∀ t, ¬opens "" t) : text = "" := by
  cases h with
  | bare => rfl
  | empty => rfl
  | wrapped h => exact absurd h (hopens _)

end Layers

theorem Service.not_readable_empty (s : Service) (text : String) : ¬s.Readable "" text := by
  intro h
  obtain ⟨e, hparse, -⟩ := h
  exact Envelope.ne_empty_of_parse hparse rfl

namespace Codec

variable {c c' : Codec} {rule : MaskRule} {n : Nat} {wire text : String}

/-- Protecting a text adds a layer. -/
theorem layers_protect (hc : c.service.BuiltIn) (h : Layers c.service.Readable n wire text)
    {sealed : String} (hprotect : protect rule wire c = (.ok sealed, c')) :
    Layers c'.service.Readable (n + 1) sealed text := by
  have hfollows := along_protect rule wire c
  rw [hprotect] at hfollows
  by_cases hwire : wire = ""
  · subst hwire
    have htext := h.eq_empty c.service.not_readable_empty
    rw [protect_empty] at hprotect
    cases hprotect
    rw [htext]
    exact .empty
  · exact .wrapped (readable_of_protect hc hwire hprotect) hwire (h.mono hfollows.readable)

/-- Revealing a text takes a layer off, whatever the rule. -/
theorem layers_reveal (hc : c.service.BuiltIn) (h : Layers c.service.Readable (n + 1) wire text)
    (rule : MaskRule) : ∃ inner c', reveal rule wire c = (.ok inner, c') ∧
      Layers c'.service.Readable n inner text := by
  rcases h.of_succ with ⟨rfl, rfl⟩ | ⟨inner, hreadable, rest⟩
  · exact ⟨"", c, reveal_empty rule c, .empty⟩
  · obtain ⟨c', hreveal⟩ := @reveal_of_readable c rule _ _ hc hreadable
    have hfollows := along_reveal rule wire c
    rw [hreveal] at hfollows
    exact ⟨inner, c', hreveal, rest.mono hfollows.readable⟩

end Codec

namespace FieldRule

open Document

variable {c c' : Codec} {texts texts' plain : Place → String} {layers : Place → Nat}

/-- Protecting at the places of visits adds a layer for each visit. -/
theorem layers_touchAll_protect {vs : List (MaskRule × Place)} (hc : c.service.BuiltIn)
    (h : ∀ place, Layers c.service.Readable (layers place) (texts place) (plain place))
    (hvs : touchAll Codec.protect vs (texts, c) = (.ok (), texts', c')) :
    c.Follows c' ∧ ∀ place, Layers c'.service.Readable (layers place + vs.countP (·.2 = place))
      (texts' place) (plain place) := by
  induction vs generalizing layers texts c with
  | nil =>
    cases hvs
    exact ⟨Codec.Follows.refl _, h⟩
  | cons v vs ih =>
    obtain ⟨state, hv, hvs⟩ := Action.each_cons_eq_ok_iff.1 hvs
    obtain ⟨sealed, d, hprotect, rfl⟩ := touch_eq_ok_iff.1 hv
    have hfollows := Codec.along_protect v.1 (texts v.2) c
    rw [hprotect] at hfollows
    have hlayers : ∀ place, Layers d.service.Readable
        (layers place + if v.2 = place then 1 else 0)
        (Function.update texts v.2 sealed place) (plain place) := by
      intro place
      by_cases hplace : v.2 = place
      · subst hplace
        rw [if_pos rfl, Function.update_self]
        exact Codec.layers_protect hc (h v.2) hprotect
      · rw [if_neg hplace, Function.update_of_ne (Ne.symm hplace)]
        exact (h place).mono hfollows.readable
    obtain ⟨hrest, hdone⟩ := ih (hfollows.builtIn hc) hlayers hvs
    refine ⟨hfollows.trans hrest, fun place => ?_⟩
    have hcount : layers place + (v :: vs).countP (·.2 = place) =
        layers place + (if v.2 = place then 1 else 0) + vs.countP (·.2 = place) := by
      rw [List.countP_cons]
      simp only [decide_eq_true_eq]
      omega
    rw [hcount]
    exact hdone place

/-- Revealing at the places of visits succeeds and takes a layer off for each visit. -/
theorem layers_touchAll_reveal (vs : List (MaskRule × Place)) (hc : c.service.BuiltIn)
    (h : ∀ place, Layers c.service.Readable (layers place + vs.countP (·.2 = place))
      (texts place) (plain place)) :
    ∃ texts' c', touchAll Codec.reveal vs (texts, c) = (.ok (), texts', c') ∧ c.Follows c' ∧
      ∀ place, Layers c'.service.Readable (layers place) (texts' place) (plain place) := by
  induction vs generalizing texts c with
  | nil => exact ⟨texts, c, rfl, Codec.Follows.refl c, h⟩
  | cons v vs ih =>
    have hcount : ∀ place, layers place + (v :: vs).countP (·.2 = place) =
        layers place + vs.countP (·.2 = place) + if v.2 = place then 1 else 0 := by
      intro place
      rw [List.countP_cons]
      simp only [decide_eq_true_eq]
      omega
    have hhere := h v.2
    rw [hcount, if_pos rfl] at hhere
    obtain ⟨inner, d, hreveal, hinner⟩ := Codec.layers_reveal hc hhere v.1
    have hfollows := Codec.along_reveal v.1 (texts v.2) c
    rw [hreveal] at hfollows
    have hlayers : ∀ place, Layers d.service.Readable (layers place + vs.countP (·.2 = place))
        (Function.update texts v.2 inner place) (plain place) := by
      intro place
      by_cases hplace : v.2 = place
      · subst hplace
        rw [Function.update_self]
        exact hinner
      · have hother := h place
        rw [hcount, if_neg hplace] at hother
        rw [Function.update_of_ne (Ne.symm hplace)]
        exact hother.mono hfollows.readable
    obtain ⟨texts', c', hvs, hrest, hdone⟩ := ih (hfollows.builtIn hc) hlayers
    exact ⟨texts', c', (touchAll_cons_of_ok hreveal vs).trans hvs, hfollows.trans hrest, hdone⟩

end FieldRule

namespace Document

open FieldRule

/-- Opening a text with a codec. -/
def Opens (c : Codec) (wire text : String) : Prop := (Service.decrypt wire c.service).1 = .ok text

variable {rules : List FieldRule} {doc sealed : Json} {c c' : Codec}

/-- A protected document has the shape of the document, and one layer for each rule that reaches a
text. -/
theorem layers_of_protectFields (hc : c.service.BuiltIn)
    (h : protectFields rules (doc, c) = (.ok (), sealed, c')) :
    ∃ texts, sealed = doc.fill texts ∧ c.Follows c' ∧ ∀ place,
      Layers c'.service.Readable (times rules doc place) (texts place) (doc.texts place) := by
  have hplain : ∀ place, Layers c.service.Readable 0 (doc.texts place) (doc.texts place) :=
    fun place => .bare
  have happly := applyAll_fill Codec.protect rules doc doc.texts c
  rw [Json.fill_texts] at happly
  rcases hrun : touchAll Codec.protect (visitsOf rules doc) (doc.texts, c) with ⟨result, texts, d⟩
  rw [hrun] at happly
  have hsame := happly.symm.trans h
  obtain ⟨rfl, rfl, rfl⟩ : result = .ok () ∧ doc.fill texts = sealed ∧ d = c' :=
    ⟨congrArg Prod.fst hsame, congrArg (·.2.1) hsame, congrArg (·.2.2) hsame⟩
  obtain ⟨hfollows, hlayers⟩ := layers_touchAll_protect hc hplain hrun
  refine ⟨texts, rfl, hfollows, fun place => ?_⟩
  have hplace := hlayers place
  rwa [Nat.zero_add, countP_visits] at hplace

/-- Rules take off as many layers as there are rules that reach a text. -/
theorem revealFields_of_layers {first rest : List FieldRule} {texts plain : Place → String}
    (hc : c.service.BuiltIn) (h : ∀ place, Layers c.service.Readable
      (times (first ++ rest) doc place) (texts place) (plain place)) :
    ∃ texts' c', revealFields first (doc.fill texts, c) = (.ok (), doc.fill texts', c') ∧
      c.Follows c' ∧ ∀ place,
        Layers c'.service.Readable (times rest doc place) (texts' place) (plain place) := by
  have hsum : ∀ place, Layers c.service.Readable
      (times rest doc place + (visitsOf first doc).countP (·.2 = place))
      (texts place) (plain place) := by
    intro place
    rw [countP_visits, Nat.add_comm, ← times_append]
    exact h place
  obtain ⟨texts', c', hrun, hfollows, hrest⟩ := layers_touchAll_reveal (visitsOf first doc) hc hsum
  have happly := applyAll_fill Codec.reveal first doc texts c
  rw [hrun] at happly
  exact ⟨texts', c', happly, hfollows, hrest⟩

/-- **Documents are restored.** Rules protected a document with a codec over built-in sealers, and
other operations followed.

- The first of the rules reveal the protected document, and in what they leave, every text of the
  document is behind as many layers as there are other rules that reach it.
- All of the rules reveal the document itself. -/
theorem revealing_restores_document (hc : c.service.BuiltIn)
    (hprotect : protectFields rules (doc, c) = (.ok (), sealed, c'))
    (between : Session) (hbetween : between.BuiltIn) :
    (∀ first rest, rules = first ++ rest → ∃ partly c'',
      revealFields first (sealed, between.run c') = (.ok (), partly, c'') ∧
      ∀ place text, doc.textAt? place = some text → ∃ wire, partly.textAt? place = some wire ∧
        Layers (Opens c'') (times rest doc place) wire text) ∧
    ∃ c'', revealFields rules (sealed, between.run c') = (.ok (), doc, c'') := by
  obtain ⟨texts, rfl, hfollows, hsealed⟩ := layers_of_protectFields hc hprotect
  have hlater := Session.follows_run hbetween c'
  have hready := hlater.builtIn (hfollows.builtIn hc)
  have hlayers : ∀ place, Layers (between.run c').service.Readable (times rules doc place)
      (texts place) (doc.texts place) := fun place => (hsealed place).mono hlater.readable
  refine ⟨fun first rest hrules => ?_, ?_⟩
  · subst hrules
    obtain ⟨texts', c'', hfirst, hfollows', hrest⟩ := revealFields_of_layers hready hlayers
    refine ⟨doc.fill texts', c'', hfirst, fun place text htext => ⟨texts' place, ?_, ?_⟩⟩
    · rw [Json.textAt?_fill, htext, Option.map_some]
    · have hplace := hrest place
      rw [Json.texts_of_textAt? htext] at hplace
      exact hplace.mono (Service.decrypt_of_readable (hfollows'.builtIn hready))
  · rw [← List.append_nil rules] at hlayers
    obtain ⟨texts', c'', hall, -, hnone⟩ := revealFields_of_layers hready hlayers
    have hdoc : doc.fill texts' = doc := by
      refine Json.fill_eq_self fun place text htext => ?_
      rw [← Json.texts_of_textAt? htext]
      exact (hnone place).eq_of_zero
    rw [hdoc] at hall
    exact ⟨c'', hall⟩

/-- Two rules for the same items, one of them with a pattern that does not compile, and one for a
member that is missing. The active suite changes before the document is revealed. -/
theorem overlapping_rules_are_undone :
    ∃ sealed c',
      protectFields [⟨"a[]", .custom 0 0 "(" false⟩, ⟨"a[]", .custom 0 0 "" true⟩, ⟨"b", .standard⟩]
          (.object [("a", .array [.string "x", .string "", .null])],
            Session.start [.modern] (.always .modern) .fresh ⟨⟨fun _ => 7, 0⟩, []⟩) =
        (.ok (), sealed, c') ∧
      ∃ c'', revealFields
          [⟨"a[]", .custom 0 0 "(" false⟩, ⟨"a[]", .custom 0 0 "" true⟩, ⟨"b", .standard⟩]
          (sealed, Session.run [⟨_, .setPolicy (.always .gm)⟩] c') =
        (.ok (), .object [("a", .array [.string "x", .string "", .null])], c'') := by
  have hbuiltIn := Session.builtIn_start [.modern] (.always .modern) .fresh ⟨⟨fun _ => 7, 0⟩, []⟩
  have hok : (protectFields
      [⟨"a[]", .custom 0 0 "(" false⟩, ⟨"a[]", .custom 0 0 "" true⟩, ⟨"b", .standard⟩]
      (.object [("a", .array [.string "x", .string "", .null])],
        Session.start [.modern] (.always .modern) .fresh ⟨⟨fun _ => 7, 0⟩, []⟩)).1 = .ok () := by
    decide +kernel
  have hbetween : Session.BuiltIn [⟨_, .setPolicy (.always .gm)⟩] := by
    simp [Session.BuiltIn, Operation.BuiltIn]
  obtain ⟨⟨sealed, c'⟩, hprotect⟩ := Action.exists_state_of_fst hok
  exact ⟨sealed, c', hprotect, (revealing_restores_document hbuiltIn hprotect _ hbetween).2⟩

end Document

end FieldSeal

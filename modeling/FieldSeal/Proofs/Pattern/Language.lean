import FieldSeal.Proofs.Pattern.Search
import Mathlib.Computability.Language

/-!
# What patterns take

**Languages** (`Shape.language`). Its conditions on positions aside, what a pattern takes is a language,
built up as the pattern is. A match takes a word of the language from the text where it stands
(`Matches.exists_word`). A pattern without conditions takes every word of its language, whatever stands
around it (`matches_of_mem_language`).

**Repetition** (`mem_language_rep`). A repetition takes a list of words, one after another.
-/

namespace FieldSeal.Pattern

open FieldSeal.Unicode (CodeSet)

namespace Shape

/-- The words that a pattern takes, if its conditions on positions hold. -/
def language : Shape CodeSet Look → Language Char
  | empty | test _ => 1
  | take s => {cs | ∃ c, cs = [c] ∧ s.has c}
  | cat a b => a.language * b.language
  | alt a b => a.language + b.language
  | rep a min max =>
    {cs | ∃ n, min ≤ n ∧ (∀ most ∈ max, n ≤ min ∨ n ≤ most) ∧ cs ∈ a.language ^ n}

/-- The pattern has no conditions on positions. -/
def plain : Shape CodeSet Look → Bool
  | empty | take _ => true
  | test _ => false
  | cat a b | alt a b => a.plain && b.plain
  | rep a _ _ => a.plain

variable {a b p : Shape CodeSet Look} {s : CodeSet} {low : Nat} {high : Option Nat}
  {text cs : List Char} {i j : Nat}

theorem mem_language_cat :
    cs ∈ (cat a b).language ↔ ∃ xs ∈ a.language, ∃ ys ∈ b.language, xs ++ ys = cs :=
  Language.mem_mul

theorem mem_language_rep :
    cs ∈ (rep a low high).language ↔ ∃ words : List (List Char), cs = words.flatten ∧
      low ≤ words.length ∧ (∀ most ∈ high, words.length ≤ low ∨ words.length ≤ most) ∧
      ∀ word ∈ words, word ∈ a.language := by
  constructor
  · rintro ⟨n, hlow, hhigh, hcs⟩
    obtain ⟨words, hflatten, rfl, hwords⟩ := Language.mem_pow.1 hcs
    exact ⟨words, hflatten, hlow, hhigh, hwords⟩
  · rintro ⟨words, hflatten, hlow, hhigh, hwords⟩
    exact ⟨words.length, hlow, hhigh, Language.mem_pow.2 ⟨words, hflatten, rfl, hwords⟩⟩

/-- One or more characters of a set. -/
theorem mem_language_run :
    cs ∈ (rep (take s) 1 none).language ↔ cs ≠ [] ∧ ∀ c ∈ cs, s.has c := by
  rw [mem_language_rep]
  constructor
  · rintro ⟨words, rfl, hlow, -, hwords⟩
    refine ⟨fun hnil => ?_, fun c hc => ?_⟩
    · obtain ⟨word, hword⟩ := List.exists_mem_of_length_pos hlow
      obtain ⟨c, hc, -⟩ := hwords word hword
      have hempty := List.flatten_eq_nil_iff.1 hnil word hword
      rw [hc] at hempty
      cases hempty
    · obtain ⟨word, hword, hmem⟩ := List.mem_flatten.1 hc
      obtain ⟨d, rfl, hd⟩ := hwords word hword
      cases List.mem_singleton.1 hmem
      exact hd
  · rintro ⟨hne, hcs⟩
    refine ⟨cs.map fun c => [c], ?_, ?_, nofun, fun word hword => ?_⟩
    · rw [← List.flatMap_def, List.flatMap_singleton']
    · rw [List.length_map]
      exact List.length_pos_iff.2 hne
    · obtain ⟨c, hc, rfl⟩ := List.mem_map.1 hword
      exact ⟨c, rfl, hcs c hc⟩

/-! ## Matches -/

/-- A match takes a word from the text. -/
theorem Matches.exists_word (h : p.Matches text i j) :
    ∃ cs ∈ p.language, text.drop i = cs ++ text.drop j := by
  induction p generalizing i j with
  | empty =>
    cases h
    exact ⟨[], rfl, rfl⟩
  | take s =>
    obtain ⟨rfl, c, hc, hs⟩ := h
    obtain ⟨hi, rfl⟩ := List.getElem?_eq_some_iff.1 hc
    exact ⟨[text[i]], ⟨_, rfl, hs⟩, List.drop_eq_getElem_cons hi⟩
  | test l =>
    obtain ⟨rfl, -⟩ := h
    exact ⟨[], rfl, rfl⟩
  | cat a b iha ihb =>
    obtain ⟨k, ha, hb⟩ := h
    obtain ⟨xs, hxs, hfirst⟩ := iha ha
    obtain ⟨ys, hys, hsecond⟩ := ihb hb
    exact ⟨xs ++ ys, Language.append_mem_mul hxs hys, by rw [hfirst, hsecond, List.append_assoc]⟩
  | alt a b iha ihb =>
    rcases h with ha | hb
    · obtain ⟨cs, hcs, hdrop⟩ := iha ha
      exact ⟨cs, .inl hcs, hdrop⟩
    · obtain ⟨cs, hcs, hdrop⟩ := ihb hb
      exact ⟨cs, .inr hcs, hdrop⟩
  | rep a low high ih =>
    obtain ⟨n, hlow, hhigh, htimes⟩ := h
    have hwords : ∃ words : List (List Char), words.length = n ∧
        (∀ word ∈ words, word ∈ a.language) ∧ text.drop i = words.flatten ++ text.drop j := by
      clear hlow hhigh
      induction n generalizing i with
      | zero =>
        cases htimes
        exact ⟨[], rfl, nofun, rfl⟩
      | succ n ihn =>
        obtain ⟨k, hstep, hrest⟩ := htimes
        obtain ⟨cs, hcs, hdrop⟩ := ih hstep
        obtain ⟨words, rfl, hwords, hdrops⟩ := ihn hrest
        refine ⟨cs :: words, rfl, List.forall_mem_cons.2 ⟨hcs, hwords⟩, ?_⟩
        rw [hdrop, hdrops, List.flatten_cons, List.append_assoc]
    obtain ⟨words, rfl, hmem, hdrop⟩ := hwords
    exact ⟨words.flatten, mem_language_rep.2 ⟨words, rfl, hlow, hhigh, hmem⟩, hdrop⟩

/-- Where a pattern stands between two texts, it takes what is in between. -/
theorem matches_of_mem_language (hp : p.plain) (h : cs ∈ p.language) (before after : List Char) :
    p.Matches (before ++ (cs ++ after)) before.length (before.length + cs.length) := by
  induction p generalizing cs before after with
  | empty =>
    cases h
    rfl
  | take s =>
    obtain ⟨c, rfl, hs⟩ := h
    refine ⟨rfl, c, ?_, hs⟩
    rw [List.getElem?_append_right (Nat.le_refl _), Nat.sub_self]
    rfl
  | test l => cases hp
  | cat a b iha ihb =>
    obtain ⟨hpa, hpb⟩ := Bool.and_eq_true_iff.1 hp
    obtain ⟨xs, hxs, ys, hys, rfl⟩ := mem_language_cat.1 h
    have hfirst := iha hpa hxs before (ys ++ after)
    have hsecond := ihb hpb hys (before ++ xs) after
    rw [List.length_append] at hsecond
    refine ⟨before.length + xs.length, ?_, ?_⟩
    · rwa [List.append_assoc]
    · rwa [List.append_assoc, ← List.append_assoc before, List.length_append, ← Nat.add_assoc]
  | alt a b iha ihb =>
    obtain ⟨hpa, hpb⟩ := Bool.and_eq_true_iff.1 hp
    rcases h with ha | hb
    · exact .inl (iha hpa ha before after)
    · exact .inr (ihb hpb hb before after)
  | rep a low high ih =>
    obtain ⟨words, rfl, hlow, hhigh, hwords⟩ := mem_language_rep.1 h
    refine ⟨words.length, hlow, hhigh, ?_⟩
    clear h hlow hhigh
    induction words generalizing before with
    | nil => rfl
    | cons word words ihw =>
      obtain ⟨hword, hrest⟩ := List.forall_mem_cons.1 hwords
      have hfirst := ih hp hword before (words.flatten ++ after)
      have hsecond := ihw (before ++ word) hrest
      rw [List.length_append] at hsecond
      refine ⟨before.length + word.length, ?_, ?_⟩
      · rwa [List.flatten_cons, List.append_assoc]
      · rwa [List.flatten_cons, List.append_assoc, ← List.append_assoc before, List.length_append,
          ← Nat.add_assoc]

end Shape

end FieldSeal.Pattern

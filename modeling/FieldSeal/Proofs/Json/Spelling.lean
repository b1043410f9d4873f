import FieldSeal.Json.Printer
import FieldSeal.Json.Token
import Mathlib.Data.List.Forall2

/-!
# What JSON texts spell

**Spelling** (`Spells`). A text spells tokens if, put in front of another text, it is cut into these
tokens and those of the other text behind them. A number goes on as long as there are digits, a
point or an exponent, so the other text may not start with one of these (`Ends`). Anything that
does not end with a number is `Firm`: it spells its tokens in front of any other text.

What is written spells what is meant: a quoted string its characters, whatever they are
(`firm_quote`), a number its digits (`spells_digits`), and an array or object of texts the tokens
of these texts between its marks (`firm_writeArray`, `firm_writeObject`). So each writer is
treated by the way in which it is put together.
-/

namespace FieldSeal.Json

/-! ## Cutting -/

/-- The characters are cut into these tokens. -/
def Cut (cs : List Char) (ts : List Token) : Prop :=
  ∀ steps, cs.length < steps → tokensFrom steps cs = ts

/-- No number goes on with these characters. -/
def Ends (cs : List Char) : Prop :=
  ∀ c ∈ cs.head?, ¬c.isDigit ∧ c ≠ '.' ∧ c ≠ 'e' ∧ c ≠ 'E'

instance (cs : List Char) : Decidable (Ends cs) := Option.decidableForallMem cs.head?

/-- No space is skipped in front of these characters. -/
def Unspaced (cs : List Char) : Prop := ∀ c ∈ cs.head?, isSpace c = false

instance (cs : List Char) : Decidable (Unspaced cs) := Option.decidableForallMem cs.head?

/-- In front of any characters with which no number goes on, the text is cut into these tokens. -/
def Spells (text : String) (ts : List Token) : Prop :=
  ∀ rest more, Ends rest → Cut rest more → Cut (text.toList ++ rest) (ts ++ more)

/-- In front of any characters, the text is cut into these tokens. -/
def Firm (text : String) (ts : List Token) : Prop :=
  ∀ rest more, Cut rest more → Cut (text.toList ++ rest) (ts ++ more)

variable {cs rest : List Char} {c : Char} {t : Token} {ts us : List Token} {text text' : String}

theorem ends_nil : Ends [] := by decide

theorem cut_nil : Cut [] [] := by
  intro steps h
  cases steps with
  | zero => cases h
  | succ steps => rfl

theorem Cut.cons (hspace : Unspaced cs)
    (h : firstToken cs = some (t, rest)) (hlen : rest.length < cs.length) (hrest : Cut rest ts) :
    Cut cs (t :: ts) := by
  intro steps hsteps
  cases steps with
  | zero => cases hsteps
  | succ steps =>
    cases cs with
    | nil => cases hlen
    | cons c cs =>
      have hdrop : (c :: cs).dropWhile isSpace = c :: cs :=
        List.dropWhile_cons_of_neg (by simp [hspace c rfl])
      rw [tokensFrom, hdrop]
      simp only [h]
      rw [hrest steps (by omega)]

theorem tokens_of_spells (h : Spells text ts) : tokens text = ts := by
  have hcut := h [] [] ends_nil cut_nil
  rw [List.append_nil, List.append_nil] at hcut
  exact hcut _ (Nat.lt_succ_self _)

theorem spells_empty : Spells "" [] := fun _ _ _ h => h

theorem Firm.spells (h : Firm text ts) : Spells text ts := fun rest more _ => h rest more

theorem Firm.append (h : Firm text ts) (h' : Spells text' us) :
    Spells (text ++ text') (ts ++ us) := by
  intro rest more hrest hmore
  rw [String.toList_append, List.append_assoc, List.append_assoc]
  exact h _ _ (h' rest more hrest hmore)

theorem Firm.append_firm (h : Firm text ts) (h' : Firm text' us) :
    Firm (text ++ text') (ts ++ us) := by
  intro rest more hmore
  rw [String.toList_append, List.append_assoc, List.append_assoc]
  exact h _ _ (h' rest more hmore)

/-- What numbers end in front of may follow any text. -/
theorem Spells.append_firm (h : Spells text ts) (h' : Firm text' us) (hends : Ends text'.toList)
    (hne : text'.toList ≠ []) : Firm (text ++ text') (ts ++ us) := by
  intro rest more hmore
  rw [String.toList_append, List.append_assoc, List.append_assoc]
  refine h _ _ ?_ (h' rest more hmore)
  rwa [Ends, List.head?_append_of_ne_nil _ hne]

/-! ## Marks and words -/

/-- A text that is one token in front of certain others. -/
theorem cut_token {rest : List Char} {more : List Token}
    (hspace : Unspaced text.toList) (hne : text.toList ≠ [])
    (h : firstToken (text.toList ++ rest) = some (t, rest)) (hmore : Cut rest more) :
    Cut (text.toList ++ rest) (t :: more) := by
  have hfirst : Unspaced (text.toList ++ rest) := by rwa [Unspaced, List.head?_append_of_ne_nil _ hne]
  refine Cut.cons hfirst h ?_ hmore
  have hpos := List.length_pos_iff.2 hne
  rw [List.length_append]
  omega

theorem firm_token (hspace : Unspaced text.toList) (hne : text.toList ≠ [])
    (h : ∀ rest, firstToken (text.toList ++ rest) = some (t, rest)) : Firm text [t] :=
  fun rest _ hmore => cut_token hspace hne (h rest) hmore

theorem firm_openArray : Firm "[" [.openArray] :=
  firm_token (by decide) (by decide) fun _ => rfl

theorem firm_closeArray : Firm "]" [.closeArray] :=
  firm_token (by decide) (by decide) fun _ => rfl

theorem firm_openObject : Firm "\x7b" [.openObject] :=
  firm_token (by decide) (by decide) fun _ => rfl

theorem firm_closeObject : Firm "\x7d" [.closeObject] :=
  firm_token (by decide) (by decide) fun _ => rfl

theorem firm_comma : Firm "," [.comma] := firm_token (by decide) (by decide) fun _ => rfl

theorem firm_colon : Firm ":" [.colon] := firm_token (by decide) (by decide) fun _ => rfl

theorem firm_null : Firm "null" [.null] := firm_token (by decide) (by decide) fun _ => rfl

theorem firm_bool (b : Bool) : Firm (if b then "true" else "false") [.bool b] := by
  cases b with
  | true => exact firm_token (by decide) (by decide) fun _ => rfl
  | false => exact firm_token (by decide) (by decide) fun _ => rfl

/-! ## Strings -/

/-- A written character is read as its code point. -/
theorem stringUnits_escapeChar (c : Char) (cs : List Char) :
    stringUnits (escapeChar c ++ cs) =
      (stringUnits cs).map fun (units, rest) => (c.toNat :: units, rest) := by
  have hshort : ∀ a b, shortEscape? a = some b → a ≠ 'u' → stringUnits ('\\' :: a :: cs) =
      (stringUnits cs).map fun (units, rest) => (b.toNat :: units, rest) := by
    intro a b hb ha
    rw [stringUnits]
    · rw [hb]
      cases stringUnits cs <;> rfl
    · rintro _ _ _ _ _ rfl
      exact fun _ => ha rfl
  unfold escapeChar
  split
  · exact hshort '"' '"' rfl (by decide)
  · exact hshort '\\' '\\' rfl (by decide)
  · exact hshort 'b' '\x08' rfl (by decide)
  · exact hshort 'f' '\x0c' rfl (by decide)
  · exact hshort 'n' '\n' rfl (by decide)
  · exact hshort 'r' '\r' rfl (by decide)
  · exact hshort 't' '\t' rfl (by decide)
  · next hquote hslash _ _ _ _ _ =>
    split
    · next hcontrol =>
      have hdigits : ∀ n < 32, Hex.number? ['0', '0', Hex.digit (n / 16), Hex.digit (n % 16)] =
          some n := by decide
      show stringUnits ('\\' :: 'u' :: '0' :: '0' :: Hex.digit (c.toNat / 16) ::
        Hex.digit (c.toNat % 16) :: cs) = _
      rw [stringUnits, hdigits _ hcontrol]
      cases stringUnits cs <;> rfl
    · next hplain =>
      have hunit : ¬(c.toNat < 32 ∨ c = '\\') := fun h => h.elim hplain hslash
      rw [List.singleton_append, stringUnits, if_neg hunit]
      · cases stringUnits cs <;> rfl
      · exact hquote
      · exact fun _ _ _ _ _ h _ => hslash h
      · exact fun _ _ h _ => hslash h

/-- A written text is read up to its closing quote. -/
theorem stringUnits_escaped (cs rest : List Char) :
    stringUnits (cs.flatMap escapeChar ++ '"' :: rest) = some (cs.map Char.toNat, rest) := by
  induction cs with
  | nil => rfl
  | cons c cs ih =>
    rw [List.flatMap_cons, List.append_assoc, stringUnits_escapeChar, ih]
    rfl

theorem not_half (c : Char) : isHighHalf c.toNat = false ∧ isLowHalf c.toNat = false := by
  have hvalid : c.toNat < 0xd800 ∨ 0xdfff < c.toNat ∧ c.toNat < 0x110000 := c.valid
  simp only [isHighHalf, isLowHalf, Bool.and_eq_false_iff, decide_eq_false_iff_not]
  omega

/-- No character is half a pair. -/
theorem joinHalves_map_toNat (cs : List Char) : joinHalves (cs.map Char.toNat) = some cs := by
  induction cs with
  | nil => rfl
  | cons c cs ih =>
    obtain ⟨hhigh, hlow⟩ := not_half c
    cases cs with
    | nil => simp [joinHalves, hhigh, hlow]
    | cons d cs =>
      rw [List.map_cons] at ih
      rw [List.map_cons, List.map_cons, joinHalves, ih, hhigh, hlow, Option.map_some,
        Char.ofNat_toNat]
      rfl

theorem stringToken_escaped (s : String) (rest : List Char) :
    stringToken (s.toList.flatMap escapeChar ++ '"' :: rest) =
      some (.string (some s), rest) := by
  rw [stringToken, stringUnits_escaped]
  simp only [Option.map_some, joinHalves_map_toNat, String.ofList_toList]

/-- A quoted text is read as the text, whatever its characters are. -/
theorem firm_quote (s : String) : Firm (quote s) [.string (some s)] := by
  have hquote : (quote s).toList = '"' :: (s.toList.flatMap escapeChar ++ ['"']) := by
    rw [quote, String.toList_ofList]
    rfl
  refine firm_token ?_ ?_ fun rest => ?_
  · intro c hc
    rw [hquote] at hc
    cases hc
    decide
  · rw [hquote]
    exact List.cons_ne_nil _ _
  · rw [hquote, List.cons_append, List.append_assoc]
    exact stringToken_escaped s rest

/-! ## Numbers -/

/-- The digits of a number. -/
def digits (n : Nat) : List Char := Nat.toDigits 10 n

/-- An integer as it is written. -/
def literal (negative : Bool) (n : Nat) : Literal := ⟨negative, digits n, [], none⟩

theorem toList_toString (n : Nat) : (toString n).toList = digits n := by
  rw [Nat.toString_eq_ofList_toDigits, String.toList_ofList, digits]

theorem isDigit_of_mem_digits {n : Nat} (h : c ∈ digits n) : c.isDigit :=
  Nat.isDigit_of_mem_toDigits (by decide) (by decide) h

/-- A number that is not zero does not start with the digit zero. -/
theorem head?_digits {n : Nat} (h : 0 < n) : (digits n).head? ≠ some '0' := by
  induction n using Nat.strongRecOn with
  | ind n ih =>
    by_cases hlt : n < 10
    · rw [digits, Nat.toDigits_of_lt_base hlt, List.head?_cons, Ne, Option.some.injEq,
        Nat.digitChar_eq_zero]
      omega
    · rw [digits, Nat.toDigits_of_base_le (by decide) (by omega),
        List.head?_append_of_ne_nil _ Nat.toDigits_ne_nil]
      exact ih (n / 10) (by omega) (by omega)

theorem numberOf_digits (n : Nat) : numberOf (digits n) = n := by
  have h := @Nat.ofDigitChars_ten_toDigits n
  rw [Nat.ofDigitChars_eq_foldl] at h
  exact h

theorem digits1_digits (n : Nat) (hrest : Ends rest) :
    digits1 (digits n ++ rest) = some (digits n, rest) := by
  have hdigits : ∀ c ∈ digits n, c.isDigit = true := fun c => isDigit_of_mem_digits
  have hstop : rest.takeWhile Char.isDigit = [] ∧ rest.dropWhile Char.isDigit = rest := by
    cases rest with
    | nil => exact ⟨rfl, rfl⟩
    | cons c rest =>
      have hc := (hrest c rfl).1
      exact ⟨List.takeWhile_cons_of_neg hc, List.dropWhile_cons_of_neg hc⟩
  rw [digits1, List.takeWhile_append_of_pos hdigits, List.dropWhile_append_of_pos hdigits, hstop.1,
    hstop.2, List.append_nil]
  cases h : digits n with
  | nil => exact absurd h Nat.toDigits_ne_nil
  | cons d ds => rfl

theorem not_leadingZero (n : Nat) :
    ¬((digits n).length > 1 ∧ (digits n).head? = some '0') := by
  rintro ⟨hlength, hhead⟩
  by_cases hn : 0 < n
  · exact head?_digits hn hhead
  · obtain rfl : n = 0 := by omega
    exact absurd hlength (by decide)

/-- A number behind its sign is read up to the end of its digits. -/
theorem numberToken_digits (negative : Bool) (n : Nat) (hrest : Ends rest) :
    numberToken negative (digits n ++ rest) = some (.number (literal negative n), rest) := by
  have hparts : fractionPart rest = some ([], rest) ∧ exponentPart rest = some (none, rest) := by
    cases rest with
    | nil => exact ⟨rfl, rfl⟩
    | cons c rest =>
      obtain ⟨-, hpoint, he, hE⟩ := hrest c rfl
      constructor
      · rw [fractionPart]
        rintro _ h
        exact hpoint (List.cons.inj h).1
      · unfold exponentPart
        split
        · next h => exact absurd (List.cons.inj h).1 he
        · next h => exact absurd (List.cons.inj h).1 hE
        · rfl
  simp only [numberToken, digits1_digits n hrest, hparts, Option.bind_eq_bind, Option.bind_some,
    if_neg (not_leadingZero n)]
  rfl

/-- A text that starts with a digit starts with a number. -/
theorem firstToken_of_isDigit (h : c.isDigit) (cs : List Char) :
    firstToken (c :: cs) = numberToken false (c :: cs) := by
  unfold firstToken
  split
  case h_12 => rfl
  all_goals
    next heq =>
      rw [(List.cons.inj heq).1] at h
      exact absurd h (by decide)

theorem isSpace_of_isDigit (h : c.isDigit) : isSpace c = false := by
  have hne : ∀ d : Char, d.isDigit = false → c ≠ d := by
    rintro d hd rfl
    rw [h] at hd
    cases hd
  simp [isSpace, hne]

/-- The digits of a number spell it. -/
theorem spells_digits (n : Nat) : Spells (toString n) [.number (literal false n)] := by
  obtain ⟨c, cs, hcs⟩ : ∃ c cs, digits n = c :: cs :=
    List.exists_cons_of_ne_nil Nat.toDigits_ne_nil
  have hc : c.isDigit := isDigit_of_mem_digits (hcs ▸ List.mem_cons_self)
  intro rest more hrest hmore
  refine cut_token ?_ ?_ ?_ hmore
  · rw [toList_toString, hcs]
    rintro _ ⟨⟩
    exact isSpace_of_isDigit hc
  · rw [toList_toString, hcs]
    exact List.cons_ne_nil _ _
  · have hnumber := numberToken_digits false n hrest
    rw [toList_toString]
    rw [hcs, List.cons_append] at hnumber ⊢
    rw [firstToken_of_isDigit hc, hnumber]

/-- The digits of a number behind a sign. -/
theorem spells_negative (n : Nat) : Spells ("-" ++ toString n) [.number (literal true n)] := by
  have hdigits : ("-" ++ toString n).toList = '-' :: digits n := by
    rw [String.toList_append, toList_toString]
    rfl
  intro rest more hrest hmore
  refine cut_token ?_ ?_ ?_ hmore
  · rw [hdigits]
    rintro _ ⟨⟩
    decide
  · rw [hdigits]
    exact List.cons_ne_nil _ _
  · rw [hdigits]
    exact numberToken_digits true n hrest

/-! ## Arrays and objects -/

/-- Lists of tokens with commas between them. -/
def joinTokens : List (List Token) → List Token
  | [] => []
  | [ts] => ts
  | ts :: rest => ts ++ .comma :: joinTokens rest

/-- An array of texts that spell tokens. -/
def arrayTokens (items : List (List Token)) : List Token :=
  .openArray :: (joinTokens items ++ [.closeArray])

/-- A member whose text spells tokens. -/
def memberTokens (name : String) (ts : List Token) : List Token :=
  .string (some name) :: .colon :: ts

/-- An object of texts that spell tokens. -/
def objectTokens (named : List (String × List Token)) : List Token :=
  .openObject :: (joinTokens (named.map fun m => memberTokens m.1 m.2) ++ [.closeObject])

theorem spells_joinWith {texts : List String} {tss : List (List Token)}
    (h : List.Forall₂ Spells texts tss) : Spells (joinWith "," texts) (joinTokens tss) := by
  induction h with
  | nil => exact spells_empty
  | @cons text ts texts tss hfirst hrest ih =>
    cases hrest with
    | nil => exact hfirst
    | cons hsecond hothers =>
      have hcomma := hfirst.append_firm firm_comma (by decide) (by decide)
      have hall := hcomma.append ih
      rw [List.append_assoc] at hall
      exact hall

/-- An array spells the tokens of its texts. -/
theorem firm_writeArray {texts : List String} {tss : List (List Token)}
    (h : List.Forall₂ Spells texts tss) : Firm (writeArray texts) (arrayTokens tss) :=
  (firm_openArray.append (spells_joinWith h)).append_firm firm_closeArray (by decide) (by decide)

/-- An object spells the tokens of its texts, each behind its name. -/
theorem firm_writeObject {named : List (String × String)} {tss : List (String × List Token)}
    (h : List.Forall₂ (fun m ts => m.1 = ts.1 ∧ Spells m.2 ts.2) named tss) :
    Firm (writeObject named) (objectTokens tss) := by
  have hmembers : List.Forall₂ Spells (named.map fun m => quote m.1 ++ ":" ++ m.2)
      (tss.map fun m => memberTokens m.1 m.2) := by
    rw [List.forall₂_map_left_iff, List.forall₂_map_right_iff]
    refine h.imp ?_
    rintro ⟨name, text⟩ ⟨_, ts⟩ ⟨rfl, htext⟩
    exact ((firm_quote name).append_firm firm_colon).append htext
  exact (firm_openObject.append (spells_joinWith hmembers)).append_firm firm_closeObject
    (by decide) (by decide)

end FieldSeal.Json

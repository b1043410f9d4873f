/-!
# Splitting at a character
-/

namespace FieldSeal.Text

/-- The parts of a text between occurrences of `d`; there is one part more than occurrences. -/
def splitChars (d : Char) : List Char → List (List Char)
  | [] => [[]]
  | c :: rest =>
    if c = d then [] :: splitChars d rest
    else
      match splitChars d rest with
      | [] => [[c]]
      | part :: parts => (c :: part) :: parts

def split (d : Char) (text : String) : List String := (splitChars d text.toList).map String.ofList

theorem splitChars_ne_nil (d : Char) (cs : List Char) : splitChars d cs ≠ [] := by
  cases cs with
  | nil => simp [splitChars]
  | cons c rest =>
    unfold splitChars
    split
    · simp
    · split <;> simp

theorem length_splitChars (d : Char) (cs : List Char) :
    (splitChars d cs).length = cs.count d + 1 := by
  induction cs with
  | nil => simp [splitChars]
  | cons c rest ih =>
    unfold splitChars
    split
    · next h => simp [ih, h]
    · next h =>
      split
      · next h' => exact absurd h' (splitChars_ne_nil d rest)
      · next h' => simp_all

/-- The parts with the character between them are the text again. -/
theorem intercalate_splitChars (d : Char) (cs : List Char) :
    [d].intercalate (splitChars d cs) = cs := by
  induction cs with
  | nil => simp [splitChars, List.intercalate]
  | cons c rest ih =>
    unfold splitChars
    split
    · next h =>
      subst h
      cases hs : splitChars c rest with
      | nil => exact absurd hs (splitChars_ne_nil c rest)
      | cons part parts => simp_all [List.intercalate]
    · split
      · next h => exact absurd h (splitChars_ne_nil d rest)
      · next part parts h =>
        rw [h] at ih
        cases parts <;> simp_all [List.intercalate]

end FieldSeal.Text

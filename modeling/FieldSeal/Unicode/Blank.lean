/-!
# Blank characters

The characters with the property White_Space. A text of blanks only counts as empty where values
and settings are read.
-/

namespace FieldSeal.Unicode

/-- The blank characters, as ranges of code points in ascending order. -/
def blanks : List (Nat × Nat) :=
  [(0x9, 0xd), (0x20, 0x20), (0x85, 0x85), (0xa0, 0xa0), (0x1680, 0x1680), (0x2000, 0x200a),
    (0x2028, 0x2029), (0x202f, 0x202f), (0x205f, 0x205f), (0x3000, 0x3000)]

def isBlank (c : Char) : Bool := blanks.any fun (low, high) => low ≤ c.toNat && c.toNat ≤ high

/-- The characters without blanks at either end. -/
def trimChars (cs : List Char) : List Char :=
  ((cs.dropWhile isBlank).reverse.dropWhile isBlank).reverse

/-- The text without blanks at either end. -/
def trim (text : String) : String := String.ofList (trimChars text.toList)

/-- The text holds no character that is not blank. -/
def isBlankText (text : String) : Bool := text.toList.all isBlank

end FieldSeal.Unicode

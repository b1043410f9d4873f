import FieldSeal.Bytes.Hex

/-!
# Tokens of JSON texts

The text is cut into tokens first. What a token cannot be made of ends the list as `illegible`, so
that a reader meets the fault only when it comes to that place.

Two faults are left to the readers, since parts of a text that are skipped may have them: a string
in which one half of a surrogate pair stands alone, and a number beyond all bounds.
-/

namespace FieldSeal.Json

/-- A number as it is written. -/
structure Literal where
  negative : Bool
  whole : List Char
  fraction : List Char
  /-- Whether a fraction is written at all; it then has a digit. -/
  exponent : Option (Bool × List Char)
  deriving DecidableEq, Repr

inductive Token where
  | openArray
  | closeArray
  | openObject
  | closeObject
  | comma
  | colon
  | null
  | bool (b : Bool)
  | number (l : Literal)
  /-- A string, or `none` when it holds half a surrogate pair. -/
  | string (s : Option String)
  | illegible
  deriving DecidableEq, Repr

def isSpace (c : Char) : Bool := c = ' ' || c = '\n' || c = '\t' || c = '\r'

/-! ## Strings -/

/-- The character of an escape of one letter. -/
def shortEscape? : Char → Option Char
  | '"' => some '"'
  | '\\' => some '\\'
  | '/' => some '/'
  | 'b' => some '\x08'
  | 'f' => some '\x0c'
  | 'n' => some '\n'
  | 'r' => some '\r'
  | 't' => some '\t'
  | _ => none

/-- The code units of a string up to its closing quote: code points, and halves of surrogate pairs
as they are written. -/
def stringUnits : List Char → Option (List Nat × List Char)
  | [] => none
  | '"' :: rest => some ([], rest)
  | '\\' :: 'u' :: a :: b :: c :: d :: rest => do
    let unit ← Hex.number? [a, b, c, d]
    let (units, rest) ← stringUnits rest
    return (unit :: units, rest)
  | '\\' :: c :: rest => do
    let c ← shortEscape? c
    let (units, rest) ← stringUnits rest
    return (c.toNat :: units, rest)
  | c :: rest =>
    if c.toNat < 32 ∨ c = '\\' then none
    else do
      let (units, rest) ← stringUnits rest
      return (c.toNat :: units, rest)

def isHighHalf (n : Nat) : Bool := 0xd800 ≤ n && n < 0xdc00

def isLowHalf (n : Nat) : Bool := 0xdc00 ≤ n && n < 0xe000

/-- The characters of code units; a half without its partner is none. -/
def joinHalves : List Nat → Option (List Char)
  | [] => some []
  | high :: low :: rest =>
    if isHighHalf high then
      if isLowHalf low then
        (joinHalves rest).map
          (Char.ofNat (0x10000 + (high - 0xd800) * 0x400 + (low - 0xdc00)) :: ·)
      else none
    else if isLowHalf high then none
    else (joinHalves (low :: rest)).map (Char.ofNat high :: ·)
  | [n] => if isHighHalf n || isLowHalf n then none else some [Char.ofNat n]

/-- A string behind its opening quote. -/
def stringToken (cs : List Char) : Option (Token × List Char) :=
  (stringUnits cs).map fun (units, rest) => (.string ((joinHalves units).map String.ofList), rest)

/-! ## Numbers -/

/-- The digits at the start, one at least. -/
def digits1 (cs : List Char) : Option (List Char × List Char) :=
  match cs.takeWhile Char.isDigit with
  | [] => none
  | ds => some (ds, cs.dropWhile Char.isDigit)

/-- The digits behind a point, if there is one. -/
def fractionPart : List Char → Option (List Char × List Char)
  | '.' :: rest => digits1 rest
  | cs => some ([], cs)

def exponentPart (cs : List Char) : Option (Option (Bool × List Char) × List Char) :=
  let signed (negative : Bool) (cs : List Char) :=
    (digits1 cs).map fun (ds, rest) => (some (negative, ds), rest)
  let behind : List Char → Option (Option (Bool × List Char) × List Char)
    | '+' :: rest => signed false rest
    | '-' :: rest => signed true rest
    | rest => signed false rest
  match cs with
  | 'e' :: rest | 'E' :: rest => behind rest
  | cs => some (none, cs)

/-- A number behind its sign. Nothing but a fraction or an exponent follows a leading zero. -/
def numberToken (negative : Bool) (cs : List Char) : Option (Token × List Char) := do
  let (whole, rest) ← digits1 cs
  if whole.length > 1 ∧ whole.head? = some '0' then none
  else
    let (fraction, rest) ← fractionPart rest
    let (exponent, rest) ← exponentPart rest
    return (.number { negative, whole, fraction, exponent }, rest)

/-! ## Texts -/

/-- The first token of a text that starts with one, and the rest. -/
def firstToken : List Char → Option (Token × List Char)
  | '[' :: rest => some (.openArray, rest)
  | ']' :: rest => some (.closeArray, rest)
  | '{' :: rest => some (.openObject, rest)
  | '}' :: rest => some (.closeObject, rest)
  | ',' :: rest => some (.comma, rest)
  | ':' :: rest => some (.colon, rest)
  | '"' :: rest => stringToken rest
  | '-' :: rest => numberToken true rest
  | 'n' :: 'u' :: 'l' :: 'l' :: rest => some (.null, rest)
  | 't' :: 'r' :: 'u' :: 'e' :: rest => some (.bool true, rest)
  | 'f' :: 'a' :: 'l' :: 's' :: 'e' :: rest => some (.bool false, rest)
  | cs => numberToken false cs

/-- The tokens of a text. Each step takes a character, so their number bounds the steps. -/
def tokensFrom : (steps : Nat) → List Char → List Token
  | 0, _ => []
  | steps + 1, cs =>
    match cs.dropWhile isSpace with
    | [] => []
    | cs =>
      match firstToken cs with
      | some (t, rest) => t :: tokensFrom steps rest
      | none => [.illegible]

def tokens (text : String) : List Token :=
  let cs := text.toList
  tokensFrom (cs.length + 1) cs

end FieldSeal.Json

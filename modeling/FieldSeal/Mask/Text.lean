import FieldSeal.Envelope.Wire
import FieldSeal.Unicode.Blank

/-!
# Masked texts

A mask shows the first and the last characters of a text and a star for each of the others. Names
and mail addresses have rules of their own for what is shown. A text of blanks is its own mask.
-/

namespace FieldSeal.Mask

/-- The largest number of characters that a rule can ask for. -/
def countLimit : Nat := Nat.pow 2 64 - 1

/-- Stars between the first `keepStart` and the last `keepEnd` characters. At least one character
is hidden. -/
def indexChars (keepStart keepEnd : Nat) (cs : List Char) : Except MaskError (List Char) :=
  let keep := min (keepStart + keepEnd) countLimit
  if cs.length ≤ keep then .error (.tooShort keep cs.length)
  else .ok (cs.take keepStart ++ List.replicate (cs.length - keep) '*' ++
    cs.drop (cs.length - keepEnd))

/-- The mask of a text by the numbers of visible characters; blanks stay as they are. -/
def index (text : String) (keepStart keepEnd : Nat) : Except MaskError String :=
  if Unicode.isBlankText text then .ok text
  else (indexChars keepStart keepEnd text.toList).map String.ofList

/-- The numbers of visible characters of a name of `n` characters. -/
def keepOfName (n : Nat) : Nat × Nat :=
  if n ≤ 2 then (1, 0) else if n = 3 then (1, 1) else (2, 1)

/-- The mask of a name, which must have two characters at least. -/
def name (text : String) : Except MaskError String :=
  if text.toList.length < 2 then .error (.tooShort 2 text.toList.length)
  else
    let (keepStart, keepEnd) := keepOfName text.toList.length
    index text keepStart keepEnd

/-- The number of characters shown of the local part of an address. -/
def shownOfLocal (n : Nat) : Nat := if n ≤ 1 then 0 else if n ≤ 4 then 2 else 4

/-- The mask of a mail address: the start of the local part, stars whose number does not depend on
it, and the domain. -/
def emailChars (cs : List Char) : Except MaskError (List Char) :=
  let front := cs.takeWhile (· ≠ '@')
  match cs.dropWhile (· ≠ '@') with
  | [] => .error .invalidEmail
  | _ :: domain =>
    if front.isEmpty ∨ domain.isEmpty ∨ '@' ∈ domain then .error .invalidEmail
    else
      let shown := shownOfLocal front.length
      .ok (front.take shown ++ List.replicate (if shown = 0 then 1 else 5) '*' ++ '@' :: domain)

def email (text : String) : Except MaskError String := (emailChars text.toList).map String.ofList

/-- A mask is put into an envelope, so it may not hold the delimiter. -/
def starDelimiters (text : String) : String :=
  String.ofList (text.toList.map fun c => if c = Envelope.delimiter then '*' else c)

end FieldSeal.Mask

import FieldSeal.Pattern.Shape

/-!
# Searching a text

A set of positions in a text is a number: position `i` belongs to it if bit `i` is set. A pattern
maps the positions at which a match may begin to those at which it may end, all at once, so the work
grows with the size of the pattern and of the text but never with the number of ways to match.

**Leaves.** Laid over a text, a set of characters becomes the set of positions in front of its
characters, and a condition the set of positions where it holds.

**Repetition.** The ends of an unbounded repetition are the closure of the starts. Each round adds a
position or is the last, so there are at most as many rounds as positions.
-/

namespace FieldSeal.Pattern

open FieldSeal.Unicode (CodeSet)

/-- Positions in a text, as bits. -/
abbrev Marks := Nat

namespace Marks

/-- The positions in a list of verdicts. -/
def ofList (bits : List Bool) : Marks := bits.foldr (fun b m => 2 * m + b.toNat) 0

/-- The positions up to `n`. -/
def upTo (n : Nat) : Marks := Nat.pow 2 (n + 1) - 1

/-- The positions of the first set that are not in the second. -/
def minus (a b : Marks) : Marks := a ^^^ (a &&& b)

end Marks

/-- The verdict at each position of a text, given the characters around it. -/
def verdicts (holds : Option Char → Option Char → Bool) (before : Option Char) :
    List Char → List Bool
  | [] => [holds before none]
  | c :: rest => holds before (some c) :: verdicts holds (some c) rest

/-- The positions in front of characters of a set. -/
def marksOfSet (text : List Char) (s : CodeSet) : Marks := Marks.ofList (text.map s.has)

/-- The positions at which a condition holds. -/
def marksOfLook (text : List Char) (l : Look) : Marks :=
  Marks.ofList (verdicts (fun before after => l.holds before after) none text)

namespace Shape

/-- Perform a step a number of times. -/
def power (f : Marks → Marks) : Nat → Marks → Marks
  | 0, m => m
  | n + 1, m => if m = 0 then 0 else power f n (f m)

/-- Perform a step at most a number of times. -/
def atMost (f : Marks → Marks) : Nat → Marks → Marks
  | 0, m => m
  | n + 1, m => if m = 0 then 0 else m ||| atMost f n (f m)

/-- Perform a step any number of times, at most `rounds` rounds; `fresh` is what the last round
added to `reached`. -/
def closure (f : Marks → Marks) : (rounds : Nat) → (reached fresh : Marks) → Marks
  | 0, reached, _ => reached
  | rounds + 1, reached, fresh =>
    let found := Marks.minus (f fresh) reached
    if found = 0 then reached else closure f rounds (reached ||| found) found

/-- Where matches end that begin at one of the given positions, in a text of length `n`. -/
def ends (n : Nat) : Shape Marks Marks → Marks → Marks
  | empty, m => m
  | take s, m => (m &&& s) <<< 1
  | test t, m => m &&& t
  | cat a b, m => b.ends n (a.ends n m)
  | alt a b, m => a.ends n m ||| b.ends n m
  | rep a min max, m =>
    let start := power (a.ends n) min m
    match max with
    | none => closure (a.ends n) (n + 1) start start
    | some max => atMost (a.ends n) (max - min) start

end Shape

/-- The shape occurs somewhere in the text. -/
def occurs (p : Shape CodeSet Look) (text : List Char) : Bool :=
  let laid := p.map (marksOfSet text) (marksOfLook text)
  laid.ends text.length (Marks.upTo text.length) ≠ 0

end FieldSeal.Pattern

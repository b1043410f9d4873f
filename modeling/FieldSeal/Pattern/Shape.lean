import FieldSeal.Unicode.CodeSet

/-!
# Shapes of patterns

What a pattern means, with all flags resolved: a sequence-alternative-repetition tree over leaves of
two sorts. A leaf of the first sort takes one character, one of the second sort tests a position.

The sorts are parameters, so that the same tree serves for a pattern by itself (sets of characters
and conditions) and for a pattern laid over a text (sets of positions, see
`FieldSeal.Pattern.Search`).
-/

namespace FieldSeal.Pattern

inductive Shape (σ τ : Type) where
  /-- Matches nothing but the empty text. -/
  | empty
  /-- Takes one character. -/
  | take (s : σ)
  /-- Tests a position. -/
  | test (t : τ)
  | cat (a b : Shape σ τ)
  | alt (a b : Shape σ τ)
  /-- At least `min` and at most `max` times, without an upper bound if that is `none`. -/
  | rep (a : Shape σ τ) (min : Nat) (max : Option Nat)
  deriving Repr

namespace Shape

variable {σ τ σ' τ' : Type}

/-- The shape with its leaves replaced. -/
def map (f : σ → σ') (g : τ → τ') : Shape σ τ → Shape σ' τ'
  | empty => empty
  | take s => take (f s)
  | test t => test (g t)
  | cat a b => cat (a.map f g) (b.map f g)
  | alt a b => alt (a.map f g) (b.map f g)
  | rep a min max => rep (a.map f g) min max

/-- The shape takes no character, whatever it is laid over. -/
def isTest : Shape σ τ → Bool
  | empty | test _ => true
  | take _ => false
  | cat a b | alt a b => a.isTest && b.isTest
  | rep a _ _ => a.isTest

end Shape

/-! ## Conditions on positions -/

/-- How a position lies to a word. -/
inductive WordEdge where
  | boundary
  | notBoundary
  | start
  | stop
  | startHalf
  | stopHalf
  deriving DecidableEq, Repr

inductive Look where
  | textStart
  | textEnd
  /-- Behind a line feed or at the start. -/
  | lineStart
  /-- In front of a line feed or at the end. -/
  | lineEnd
  /-- As before, where a carriage return, a line feed or the two in a row end a line. -/
  | anyLineStart
  | anyLineEnd
  /-- With the characters that make up words. -/
  | word (set : Unicode.CodeSet) (edge : WordEdge)
  deriving Repr

/-- The condition holds between two characters; at either end of the text there is none. -/
def Look.holds (before after : Option Char) : Look → Bool
  | textStart => before.isNone
  | textEnd => after.isNone
  | lineStart => before.isNone || before = some '\n'
  | lineEnd => after.isNone || after = some '\n'
  | anyLineStart =>
    before.isNone || before = some '\n' || (before = some '\r' && after ≠ some '\n')
  | anyLineEnd =>
    after.isNone || after = some '\r' || (after = some '\n' && before ≠ some '\r')
  | word set edge =>
    let inBefore := before.any set.has
    let inAfter := after.any set.has
    match edge with
    | .boundary => inBefore ≠ inAfter
    | .notBoundary => inBefore = inAfter
    | .start => !inBefore && inAfter
    | .stop => inBefore && !inAfter
    | .startHalf => !inBefore
    | .stopHalf => !inAfter

end FieldSeal.Pattern

import FieldSeal.Unicode.Query

/-!
# Patterns as written

The tree of a pattern as its text shows it: what each part means still depends on the flags that are
set where it stands.

**Chains.** Sequences and alternatives are chains that lean to the right. A chain counts as one
level of nesting, however long it is.
-/

namespace FieldSeal.Pattern

/-- What can be switched within a pattern. -/
inductive Flag where
  | caseInsensitive
  | multiLine
  | dotAll
  /-- Exchanges greedy and lazy repetition, which does not change what is matched. -/
  | swapGreed
  | unicode
  /-- A carriage return ends a line too. -/
  | crlf
  /-- Blanks and comments in the pattern do not count. -/
  | verbose
  deriving DecidableEq, Repr

/-- Flags switched on and off, at most once each. -/
abbrev FlagChange := List (Flag × Bool)

/-- A character, and whether it was written as two hexadecimal digits of a byte. -/
structure Literal where
  char : Char
  isByte : Bool := false
  deriving DecidableEq, Repr

/-- Conditions on a position. -/
inductive Assertion where
  | lineStart
  | lineEnd
  | textStart
  | textEnd
  | wordBoundary
  | notWordBoundary
  | wordStart
  | wordEnd
  | wordStartHalf
  | wordEndHalf
  deriving DecidableEq, Repr

/-- Classes with an escape of one letter. -/
inductive ShortClass where
  | digit
  | space
  | word
  deriving DecidableEq, Repr

/-- Classes of ASCII characters with a name. -/
inductive AsciiClass where
  | alnum | alpha | ascii | blank | cntrl | digit | graph | lower | print | punct | space | upper
  | word | xdigit
  deriving DecidableEq, Repr

/-- Operations on sets. -/
inductive SetOp where
  | inter
  | diff
  | symmDiff
  deriving DecidableEq, Repr

/-- The inside of brackets. -/
inductive ClassSet where
  | empty
  | literal (l : Literal)
  | range (low high : Literal)
  | ascii (negated : Bool) (c : AsciiClass)
  | short (negated : Bool) (c : ShortClass)
  | property (negated : Bool) (q : Unicode.Query)
  | nested (negated : Bool) (s : ClassSet)
  | union (a b : ClassSet)
  | binary (op : SetOp) (a b : ClassSet)
  deriving Repr

/-- A pattern. -/
inductive Ast where
  | empty
  | setFlags (change : FlagChange)
  | literal (l : Literal)
  | dot
  | assertion (a : Assertion)
  | short (negated : Bool) (c : ShortClass)
  | property (negated : Bool) (q : Unicode.Query)
  | bracket (negated : Bool) (s : ClassSet)
  | repeated (a : Ast) (min : Nat) (max : Option Nat)
  | group (change : FlagChange) (a : Ast)
  | cat (a b : Ast)
  | alt (a b : Ast)
  deriving Repr

/-- A chain of members, none for no member. -/
def ClassSet.ofList : List ClassSet → ClassSet
  | [] => .empty
  | [s] => s
  | s :: rest => .union s (ofList rest)

/-- A sequence. -/
def Ast.ofSequence : List Ast → Ast
  | [] => .empty
  | [a] => a
  | a :: rest => .cat a (ofSequence rest)

/-- Alternatives. -/
def Ast.ofBranches : List Ast → Ast
  | [] => .empty
  | [a] => a
  | a :: rest => .alt a (ofBranches rest)

/-! ## Nesting -/

/-- The chain that a node continues. -/
inductive Chain where
  | none
  | cat
  | alt
  | union
  deriving DecidableEq, Repr

/-- One level, unless the node continues a chain of its own kind. -/
def Chain.level (own within : Chain) : Nat := if own = within then 0 else 1

def ClassSet.depth : Chain → ClassSet → Nat
  | _, nested _ s => 1 + s.depth .none
  | within, union a b => Chain.union.level within + max (a.depth .none) (b.depth .union)
  | _, binary _ a b => 1 + max (a.depth .none) (b.depth .none)
  | _, _ => 0

def Ast.depth : Chain → Ast → Nat
  | _, bracket _ s => 1 + s.depth .none
  | _, repeated a _ _ => 1 + a.depth .none
  | _, group _ a => 1 + a.depth .none
  | within, cat a b => Chain.cat.level within + max (a.depth .none) (b.depth .cat)
  | within, alt a b => Chain.alt.level within + max (a.depth .none) (b.depth .alt)
  | _, _ => 0

/-- The deepest nesting that is accepted. -/
def depthLimit : Nat := 250

end FieldSeal.Pattern

import FieldSeal.Pattern.Ast
import FieldSeal.Pattern.Shape
import FieldSeal.Unicode.CaseFold

/-!
# What patterns mean

From the tree of a pattern to its shape. Flags are followed through the tree from left to right: a
change holds for the rest of the group in which it stands, alternatives included.

**Sets.** With the Unicode flag on, sets are closed under simple case folding if case does not
count, and then complemented if they are negated. With it off only ASCII can be meant: a set that
would hold anything else is refused, and so is every complement.
-/

namespace FieldSeal.Pattern

open FieldSeal.Unicode (CodeSet)

/-- The flags at a place in a pattern. -/
structure Flags where
  caseInsensitive : Bool := false
  multiLine : Bool := false
  dotAll : Bool := false
  unicode : Bool := true
  crlf : Bool := false

namespace Flags

def set (f : Flags) : Flag × Bool → Flags
  | (.caseInsensitive, on) => { f with caseInsensitive := on }
  | (.multiLine, on) => { f with multiLine := on }
  | (.dotAll, on) => { f with dotAll := on }
  | (.unicode, on) => { f with unicode := on }
  | (.crlf, on) => { f with crlf := on }
  | (.swapGreed, _) | (.verbose, _) => f

def apply (f : Flags) (change : FlagChange) : Flags := change.foldl set f

/-- The set with the case variants that count under the flags. -/
def fold (f : Flags) (s : CodeSet) : CodeSet :=
  if !f.caseInsensitive then s else if f.unicode then s.caseClosure else s.asciiCaseClosure

/-- The set or its complement. -/
def negate (f : Flags) (negated : Bool) (s : CodeSet) : Option CodeSet :=
  if !negated then some s else if f.unicode then some s.complement else none

end Flags

/-! ## Sets -/

def asciiWord : CodeSet := [(0x30, 0x39), (0x41, 0x5a), (0x5f, 0x5f), (0x61, 0x7a)]

def AsciiClass.set : AsciiClass → CodeSet
  | alnum => [(0x30, 0x39), (0x41, 0x5a), (0x61, 0x7a)]
  | alpha => [(0x41, 0x5a), (0x61, 0x7a)]
  | ascii => [(0, 0x7f)]
  | blank => [(0x9, 0x9), (0x20, 0x20)]
  | cntrl => [(0, 0x1f), (0x7f, 0x7f)]
  | digit => [(0x30, 0x39)]
  | graph => [(0x21, 0x7e)]
  | lower => [(0x61, 0x7a)]
  | print => [(0x20, 0x7e)]
  | punct => [(0x21, 0x2f), (0x3a, 0x40), (0x5b, 0x60), (0x7b, 0x7e)]
  | space => [(0x9, 0xd), (0x20, 0x20)]
  | upper => [(0x41, 0x5a)]
  | word => asciiWord
  | xdigit => [(0x30, 0x39), (0x41, 0x46), (0x61, 0x66)]

/-- The set of a class of one letter. These sets hold all case variants of their members. -/
def ShortClass.set (f : Flags) : ShortClass → CodeSet
  | digit => if f.unicode then Unicode.digits else [(0x30, 0x39)]
  | space => if f.unicode then Unicode.blanks else [(0x9, 0xd), (0x20, 0x20)]
  | word => if f.unicode then Unicode.Property.word else asciiWord

def SetOp.apply : SetOp → CodeSet → CodeSet → CodeSet
  | inter, a, b => a.inter b
  | diff, a, b => a.diff b
  | symmDiff, a, b => a.symmDiff b

/-- Properties are sets of Unicode characters and need the flag. -/
def propertySet (f : Flags) (negated : Bool) (q : Unicode.Query) : Option CodeSet :=
  if f.unicode then q.set?.bind fun s => f.negate negated (f.fold s) else none

/-- With the Unicode flag off, a member of a set must be ASCII. -/
def Literal.code? (f : Flags) (l : Literal) : Option Nat :=
  if f.unicode || l.char.toNat < 128 then some l.char.toNat else none

def ClassSet.resolve (f : Flags) : ClassSet → Option CodeSet
  | empty => some []
  | literal l => do
    let n ← l.code? f
    return [(n, n)]
  | range low high => do
    let a ← low.code? f
    let b ← high.code? f
    return [(a, b)]
  | ascii negated c => f.negate negated (f.fold c.set)
  | short negated c => f.negate negated (c.set f)
  | property negated q => propertySet f negated q
  | nested negated s => do
    let s ← s.resolve f
    f.negate negated (f.fold s)
  | union a b => do
    let a ← a.resolve f
    let b ← b.resolve f
    return a ++ b
  | binary op a b => do
    let a ← a.resolve f
    let b ← b.resolve f
    return op.apply (f.fold a) (f.fold b)

/-! ## Patterns -/

/-- The characters that a literal takes. A byte above ASCII is no character with the Unicode flag
off. -/
def Literal.set? (f : Flags) (l : Literal) : Option CodeSet :=
  if !f.unicode && l.isByte && l.char.toNat ≥ 128 then none
  else if f.unicode || l.char.toNat < 128 then some (f.fold (CodeSet.single l.char))
  else some (CodeSet.single l.char)

/-- The characters that a dot takes: all but those that end a line, or simply all. -/
def dotSet? (f : Flags) : Option CodeSet :=
  if !f.unicode then none
  else if f.dotAll then some CodeSet.full
  else if f.crlf then some (CodeSet.complement [(0xa, 0xa), (0xd, 0xd)])
  else some (CodeSet.complement [(0xa, 0xa)])

def Assertion.look (f : Flags) : Assertion → Look
  | lineStart => if !f.multiLine then .textStart else if f.crlf then .anyLineStart else .lineStart
  | lineEnd => if !f.multiLine then .textEnd else if f.crlf then .anyLineEnd else .lineEnd
  | textStart => .textStart
  | textEnd => .textEnd
  | wordBoundary => .word (ShortClass.word.set f) .boundary
  | notWordBoundary => .word (ShortClass.word.set f) .notBoundary
  | wordStart => .word (ShortClass.word.set f) .start
  | wordEnd => .word (ShortClass.word.set f) .stop
  | wordStartHalf => .word (ShortClass.word.set f) .startHalf
  | wordEndHalf => .word (ShortClass.word.set f) .stopHalf

/-- The shape of a part under the flags in front of it, and the flags behind it. -/
def Ast.resolve (f : Flags) : Ast → Option (Shape CodeSet Look × Flags)
  | empty => some (.empty, f)
  | setFlags change => some (.empty, f.apply change)
  | literal l => do return (.take (← l.set? f), f)
  | dot => do return (.take (← dotSet? f), f)
  | assertion a => some (.test (a.look f), f)
  | short negated c => do return (.take (← f.negate negated (c.set f)), f)
  | property negated q => do return (.take (← propertySet f negated q), f)
  | bracket negated s => do
    let s ← s.resolve f
    return (.take (← f.negate negated (f.fold s)), f)
  | repeated a min max => do
    let (a, g) ← a.resolve f
    return (.rep a min max, g)
  | group change a => do
    let (a, _) ← a.resolve (f.apply change)
    return (a, f)
  | cat a b => do
    let (a, f) ← a.resolve f
    let (b, f) ← b.resolve f
    return (.cat a b, f)
  | alt a b => do
    let (a, f) ← a.resolve f
    let (b, f) ← b.resolve f
    return (.alt a b, f)

end FieldSeal.Pattern

import FieldSeal.Pattern.Reader
import FieldSeal.Pattern.Resolve
import FieldSeal.Pattern.Search
import FieldSeal.Pattern.Size

/-!
# Validation patterns

A pattern is compiled from its text once and then matched against values. It matches a value if it
matches some part of it; anchors tie it to the ends.

Compiling fails for a text that is no pattern, for a set that no name denotes or that the flags do
not admit, and for a pattern that is nested too deeply or too large.
-/

namespace FieldSeal

/-- A compiled pattern. -/
structure Pattern where
  shape : Pattern.Shape Unicode.CodeSet Pattern.Look

namespace Pattern

/-- The pattern that a text denotes. -/
def compile? (text : String) : Option Pattern := do
  let a ← Ast.ofText? text
  let (shape, _) ← a.resolve {}
  if shape.size false ≤ sizeLimit then return { shape } else none

/-- The pattern matches somewhere in the text. -/
def isMatch (p : Pattern) (text : String) : Bool := occurs p.shape text.toList

end Pattern

end FieldSeal

import FieldSeal.Action
import FieldSeal.Mask.Rule
import FieldSeal.Mask.Text
import FieldSeal.Pattern

/-!
# Masking under rules

A masker validates values and masks them. It compiles each pattern once and keeps it by its text;
what does not compile is not kept, so it fails again the next time.
-/

namespace FieldSeal

/-- The patterns compiled so far, each with its text. -/
structure Masker where
  patterns : List (String × Pattern) := []

namespace Masker

abbrev Step (α : Type) := Action Masker MaskError α

/-- The compiled pattern of a text. -/
def pattern (text : String) : Step Pattern := fun m =>
  match m.patterns.lookup text with
  | some p => (.ok p, m)
  | none =>
    match Pattern.compile? text with
    | some p => (.ok p, { m with patterns := (text, p) :: m.patterns })
    | none => (.error .invalidPattern, m)

/-- The number of patterns kept. -/
def size (m : Masker) : Nat := m.patterns.length

/-- The value satisfies the pattern of the rule. -/
def accepts (rule : MaskRule) (value : String) : Step Bool :=
  if rule.pattern.isEmpty then pure true
  else do
    let p ← pattern rule.pattern
    return p.isMatch value

/-- The mask of a value under a rule, as its kind demands. -/
def shape (rule : MaskRule) (value : String) : Except MaskError String :=
  match rule.kind with
  | .chineseName => Mask.name value
  | .email => Mask.email value
  | _ => Mask.index value rule.keepStart rule.keepEnd

/-- Validate a value if the rule asks for it, and mask it. -/
def mask (rule : MaskRule) (value : String) : Step String :=
  if Unicode.isBlankText value then pure value
  else do
    if rule.mustMatch then
      unless ← accepts rule value do throw (.rejected rule.kind)
    let masked ← Action.ofExcept (shape rule value)
    return Mask.starDelimiters masked

end Masker

end FieldSeal

import FieldSeal.Mask.Kind

/-!
# Masking rules

How a value of a kind is validated and how much of it a mask leaves visible.
-/

namespace FieldSeal

structure MaskRule where
  kind : SensitiveKind
  keepStart : Nat
  keepEnd : Nat
  /-- The validation pattern; an empty one accepts every value. -/
  pattern : String
  /-- A value that does not satisfy the pattern is not masked but refused. -/
  mustMatch : Bool
  deriving DecidableEq, Repr

namespace MaskRule

/-- The rule of the catalog. Values of the custom kind are masked without validation. -/
def ofKind (kind : SensitiveKind) : MaskRule where
  kind := kind
  keepStart := kind.keepStart
  keepEnd := kind.keepEnd
  pattern := kind.pattern
  mustMatch := kind ≠ .custom

/-- A rule of the custom kind. -/
def custom (keepStart keepEnd : Nat) (pattern : String) (mustMatch : Bool) : MaskRule :=
  { kind := .custom, keepStart, keepEnd, pattern, mustMatch }

/-- Letters and numbers, with one character visible at either end. -/
def standard : MaskRule := custom 1 1 SensitiveKind.custom.pattern true

end MaskRule

end FieldSeal

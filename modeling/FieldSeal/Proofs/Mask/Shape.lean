import FieldSeal.Proofs.Masker
import FieldSeal.Proofs.Unicode.Category
import Mathlib.Data.List.Permutation

/-!
# What the patterns of the catalog mean

**Shapes** (`SensitiveKind.shape?_pattern`). The pattern of each kind is read once, and its shape is
written out here (`SensitiveKind.shape`). What is said of the texts of a kind is said of this shape.

**Acceptance** (`SensitiveKind.accepts_iff`). None of the patterns is too large to be compiled, so a
value is accepted exactly if the shape of its kind occurs in it. The custom kind is left aside: the
catalog does not validate its values.
-/

namespace FieldSeal

open Pattern Unicode

deriving instance DecidableEq for Look
deriving instance DecidableEq for Shape
deriving instance DecidableEq for ClassSet
deriving instance DecidableEq for Ast

namespace Pattern

/-- What a text means as a pattern, however large it is. -/
def shape? (text : String) : Option (Shape CodeSet Look) :=
  ((Ast.ofText? text).bind (Ast.resolve {})).map Prod.fst

/-- Patterns are what their texts mean, if they are not too large. -/
theorem compile?_eq_some_iff {text : String} {p : Pattern} :
    compile? text = some p ↔ shape? text = some p.shape ∧ p.shape.size false ≤ sizeLimit := by
  unfold compile? shape?
  cases Ast.ofText? text with
  | none => simp
  | some a =>
    cases hresolve : a.resolve {} with
    | none => simp [hresolve]
    | some result =>
      obtain ⟨shape, flags⟩ := result
      obtain ⟨other⟩ := p
      by_cases hsize : shape.size false ≤ sizeLimit
      · simp only [hresolve, Option.bind_eq_bind, Option.bind_some, if_pos hsize, Option.map_some]
        constructor
        · rintro ⟨⟩
          exact ⟨rfl, hsize⟩
        · rintro ⟨⟨⟩, -⟩
          rfl
      · simp only [hresolve, Option.bind_eq_bind, Option.bind_some, if_neg hsize, Option.map_some]
        constructor
        · nofun
        · rintro ⟨⟨⟩, hle⟩
          exact absurd hle hsize

end Pattern

/-! ## A vocabulary of shapes -/

namespace Pattern.Shape

/-- Parts in a row. -/
def row : List (Shape CodeSet Look) → Shape CodeSet Look
  | [] => .empty
  | [p] => p
  | p :: ps => .cat p (row ps)

/-- One of the parts. -/
def oneOf : List (Shape CodeSet Look) → Shape CodeSet Look
  | [] => .empty
  | [p] => p
  | p :: ps => .alt p (oneOf ps)

/-- Parts in a row that make up the whole text. -/
def whole (ps : List (Shape CodeSet Look)) : Shape CodeSet Look :=
  row (.test .textStart :: ps ++ [.test .textEnd])

def optional (p : Shape CodeSet Look) : Shape CodeSet Look := .rep p 0 (some 1)

/-- Decimal digits of any script. -/
def digitRun (low high : Nat) : Shape CodeSet Look := .rep (.take digits) low (some high)

/-- A character between two others. -/
def between (low high : Char) : Shape CodeSet Look := .take [(low.toNat, high.toNat)]

/-- A text as it stands. -/
def exactly (text : String) : Shape CodeSet Look :=
  row (text.toList.map fun c => .take (.single c))

end Pattern.Shape

namespace SensitiveKind

open Shape

/-! ## Addresses -/

namespace Email

/-- The capital letters, and the characters outside of ASCII that fold to small ones. -/
def variants : CodeSet := [(0x41, 0x5a), (0x17f, 0x17f), (0x212a, 0x212a)]

/-- Letters and digits. -/
def alnum : CodeSet := [(0x61, 0x7a), (0x30, 0x39)] ++ variants

/-- What may stand within a label of a host. -/
def inner : CodeSet := [(0x61, 0x7a), (0x30, 0x39), (0x2d, 0x2d)] ++ variants

/-- The signs that may stand in front of the at sign besides letters and digits. -/
def signs : List Char := "!#$%&'*+/=?^_`\x7b|\x7d~-".toList

/-- What may stand in front of the at sign. -/
def atom : CodeSet :=
  [(0x61, 0x7a), (0x30, 0x39)] ++ signs.map (fun c => (c.toNat, c.toNat)) ++ variants

/-- The rest of a label. -/
def labelEnd : Shape CodeSet Look :=
  .rep (.cat (.rep (.take inner) 0 none) (.take alnum)) 0 (some 1)

/-- What the pattern of addresses means. -/
def shape : Shape CodeSet Look :=
  .cat (.test .textStart) <| .cat .empty <| .cat (.rep (.take atom) 1 none) <|
    .cat (.rep (.cat (.take (.single '.')) (.rep (.take atom) 1 none)) 0 none) <|
    .cat (.take (.single '@')) <|
    .cat (.rep (.cat (.take alnum) (.cat labelEnd (.take (.single '.')))) 1 none) <|
    .cat (.take alnum) <| .cat labelEnd (.test .textEnd)

def lowerOrDigit : List ClassSet :=
  [.range ⟨'a', false⟩ ⟨'z', false⟩, .range ⟨'0', false⟩ ⟨'9', false⟩]

def alnumSet : Ast := .bracket false (ClassSet.ofList lowerOrDigit)

def innerSet : Ast := .bracket false (ClassSet.ofList (lowerOrDigit ++ [.literal ⟨'-', false⟩]))

def atomSet : Ast :=
  .bracket false (ClassSet.ofList (lowerOrDigit ++ signs.map fun c => .literal ⟨c, false⟩))

/-- A label of a host. -/
def label : List Ast :=
  [alnumSet, .repeated (.group [] (.cat (.repeated innerSet 0 none) alnumSet)) 0 (some 1)]

/-- The pattern of addresses, as it is read. -/
def ast : Ast := Ast.ofSequence <|
  [.assertion .lineStart, .setFlags [(.caseInsensitive, true)], .repeated atomSet 1 none,
    .repeated (.group [] (.cat (.literal ⟨'.', false⟩) (.repeated atomSet 1 none))) 0 none,
    .literal ⟨'@', false⟩,
    .repeated (.group [] (Ast.ofSequence (label ++ [.literal ⟨'.', false⟩]))) 1 none] ++
  label ++ [.assertion .lineEnd]

end Email

theorem ofText?_email : Ast.ofText? email.pattern = some Email.ast := by decide +kernel

theorem resolve_email : (Email.ast.resolve {}).map Prod.fst = some Email.shape := by decide +kernel

/-! ## Numbers -/

/-- A day of a month, with two digits. -/
def day : Shape CodeSet Look :=
  oneOf [row [between '0' '2', between '1' '9'], exactly "10", exactly "20", exactly "30",
    exactly "31"]

/-- The last character of a citizen's number. -/
def checkDigit : Shape CodeSet Look := .take [(0x30, 0x39), (0x58, 0x58), (0x78, 0x78)]

/-- A citizen's number of the old form, whose year has two digits. -/
def citizenIdOld : Shape CodeSet Look :=
  whole [between '1' '9', digitRun 5 5, digitRun 2 2,
    oneOf [row [exactly "0", between '1' '9'], exactly "10", exactly "11", exactly "12"],
    day, digitRun 2 2, checkDigit]

/-- A citizen's number of the new form, whose year has four digits. -/
def citizenIdNew : Shape CodeSet Look :=
  whole [between '1' '9', digitRun 5 5, oneOf [exactly "18", exactly "19", exactly "20"],
    digitRun 2 2, oneOf [row [exactly "0", between '1' '9'], row [exactly "1", between '0' '2']],
    day, digitRun 3 3, checkDigit]

/-- What may stand between the parts of a telephone number. -/
def gap : Shape CodeSet Look := optional (.take ((0x2d, 0x2d) :: blanks))

/-! ## Names -/

def ideographs : Shape CodeSet Look := .rep (.take [(0x4e00, 0x9fa5)]) 1 none

/-- A part of an English name. -/
def word : List (Shape CodeSet Look) :=
  [.take [(0x41, 0x5a), (0x61, 0x7a)],
    .rep (.take [(0x41, 0x5a), (0x61, 0x7a), (0x27, 0x27), (0x2d, 0x2d), (0x2e, 0x2e)]) 1 (some 19)]

theorem ofText?_custom : Ast.ofText? custom.pattern = some (Ast.ofSequence
    [.assertion .lineStart,
      .repeated (.bracket false (.union (.property false (.name "L")) (.property false (.name "N"))))
        0 none,
      .assertion .lineEnd]) := by decide +kernel

theorem shape?_custom : shape? custom.pattern = some
    (.cat (.test .textStart) (.cat
      (.rep (.take (Category.setOf Category.letters ++ Category.setOf [.nd, .nl, .no])) 0 none)
      (.test .textEnd))) := by
  rw [shape?, ofText?_custom]
  simp [Ast.ofSequence, Ast.resolve, ClassSet.resolve, propertySet, Query.set?_letters,
    Query.set?_numbers, Flags.fold, Flags.negate, Assertion.look]

/-! ## All kinds -/

/-- What the pattern of a kind means. -/
def shape : SensitiveKind → Shape CodeSet Look
  | bankCard => whole [between '1' '9', digitRun 12 18]
  | email => Email.shape
  | citizenId => .alt citizenIdOld citizenIdNew
  | mobilePhone => whole [exactly "1", between '3' '9', digitRun 9 9]
  | telephone =>
    whole [optional (row [exactly "0", digitRun 2 3, gap]), digitRun 7 8,
      optional (row [gap, digitRun 1 6])]
  | chineseName => whole [ideographs, .rep (row [exactly "·", ideographs]) 0 none]
  | englishName => whole (word ++ [.rep (row (.rep (.take blanks) 1 none :: word)) 0 none])
  | custom =>
    whole [.rep (.take (Category.setOf Category.letters ++ Category.setOf [.nd, .nl, .no])) 0 none]

/-- Every pattern of the catalog means the shape of its kind. -/
theorem shape?_pattern (kind : SensitiveKind) : shape? kind.pattern = some kind.shape := by
  cases kind with
  | email => rw [shape?, ofText?_email, Option.bind_some, resolve_email]; rfl
  | custom => exact shape?_custom
  | bankCard => decide +kernel
  | citizenId => decide +kernel
  | mobilePhone => decide +kernel
  | telephone => decide +kernel
  | chineseName => decide +kernel
  | englishName => decide +kernel

theorem compile?_pattern {kind : SensitiveKind} (hkind : kind ≠ custom) :
    compile? kind.pattern = some ⟨kind.shape⟩ := by
  refine compile?_eq_some_iff.2 ⟨kind.shape?_pattern, ?_⟩
  cases kind with
  | custom => exact absurd rfl hkind
  | _ => cbv

theorem pattern_not_isEmpty (kind : SensitiveKind) : ¬(MaskRule.ofKind kind).pattern.isEmpty := by
  cases kind <;> decide +kernel

/-- A value is accepted if and only if the shape of its kind occurs in it. -/
theorem accepts_iff {kind : SensitiveKind} (hkind : kind ≠ custom) {text : String} :
    (MaskRule.ofKind kind).Accepts text ↔ occurs kind.shape text.toList := by
  refine ⟨?_, fun h => .inr ⟨_, compile?_pattern hkind, h⟩⟩
  rintro (hempty | ⟨p, hp, hmatch⟩)
  · exact absurd hempty kind.pattern_not_isEmpty
  · cases (compile?_pattern hkind).symm.trans hp
    exact hmatch

/-- An address satisfies the pattern if its characters do. -/
theorem accepts_email {text : String} (h : occurs Email.shape text.toList) :
    (MaskRule.ofKind email).Accepts text := (accepts_iff (by decide)).2 h

end SensitiveKind

end FieldSeal

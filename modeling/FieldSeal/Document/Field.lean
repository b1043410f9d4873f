import FieldSeal.Codec
import FieldSeal.Document.Walk

/-!
# Protecting the fields of documents

A field rule names places in a document and how the texts there are masked. The rules are applied
one after another, each to the document that the one before left, up to the first failure.
-/

namespace FieldSeal

structure FieldRule where
  path : String
  rule : MaskRule
  deriving DecidableEq, Repr

namespace FieldRule

/-- Apply rules, each with the change that belongs to its masking rule. -/
def applyAll (f : MaskRule → String → Codec.Step String) (rules : List FieldRule) :
    Document.Walk Codec FieldError :=
  rules.forM fun field => Document.change (f field.rule) (Path.parse field.path)

end FieldRule

namespace Document

/-- Protect every text that a rule names. -/
def protectFields (rules : List FieldRule) : Walk Codec FieldError :=
  FieldRule.applyAll Codec.protect rules

/-- Reveal every text that a rule names. -/
def revealFields (rules : List FieldRule) : Walk Codec FieldError :=
  FieldRule.applyAll Codec.reveal rules

end Document

end FieldSeal

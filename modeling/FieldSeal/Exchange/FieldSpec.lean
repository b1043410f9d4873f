import FieldSeal.Document.Field
import FieldSeal.Json.Printer
import FieldSeal.Json.Record

/-!
# Field specifications

How a field rule is written in a message: a path, the name of a kind of values, and settings that
override those of the kind. With any override the rule becomes one of the custom kind, and the
settings that are not overridden are still those of the named kind.
-/

namespace FieldSeal

structure FieldSpec where
  path : String
  kind : String
  keepStart? : Option Nat := none
  keepEnd? : Option Nat := none
  pattern? : Option String := none
  mustMatch? : Option Bool := none
  deriving DecidableEq, Repr

namespace FieldSpec

/-- Some setting is overridden. -/
def isCustom (spec : FieldSpec) : Bool :=
  spec.keepStart?.isSome || spec.keepEnd?.isSome || spec.pattern?.isSome || spec.mustMatch?.isSome

/-- The specification is no more than its path and kind. -/
def isPlain (spec : FieldSpec) : Bool := spec = { path := spec.path, kind := spec.kind }

/-- The masking rule of a specification whose kind is known. -/
def ruleOf (spec : FieldSpec) (kind : SensitiveKind) : MaskRule :=
  if spec.isCustom then
    MaskRule.custom (spec.keepStart?.getD kind.keepStart) (spec.keepEnd?.getD kind.keepEnd)
      (spec.pattern?.getD kind.pattern) (spec.mustMatch?.getD true)
  else MaskRule.ofKind kind

/-- The field rule of a specification. -/
def resolve (spec : FieldSpec) : Except UnknownKind FieldRule :=
  (SensitiveKind.ofName spec.kind).map fun kind => { path := spec.path, rule := spec.ruleOf kind }

/-! ## Text form -/

/-- The text of a specification. Settings that are not overridden are left out. -/
def write (spec : FieldSpec) : String :=
  let members : List (String × Option String) :=
    [("path", some (Json.quote spec.path)),
      ("type", some (Json.quote spec.kind)),
      ("prefix", spec.keepStart?.map toString),
      ("suffix", spec.keepEnd?.map toString),
      ("regex", spec.pattern?.map Json.quote),
      ("must_match", spec.mustMatch?.map fun b => (Json.bool b).write)]
  Json.writeObject (members.filterMap fun (name, text?) => text?.map fun text => (name, text))

/-- What is read of a specification. A setting may be read as absent. -/
structure Parts where
  path : Option String := none
  kind : Option String := none
  keepStart : Option (Option Nat) := none
  keepEnd : Option (Option Nat) := none
  pattern : Option (Option String) := none
  mustMatch : Option (Option Bool) := none

open Json Reader in
def record : Record Parts FieldSpec where
  fields :=
    [.of "path" (·.path) (fun p v => { p with path := v }) string,
      .of "type" (·.kind) (fun p v => { p with kind := v }) string,
      .of "prefix" (·.keepStart) (fun p v => { p with keepStart := v }) (optional natural),
      .of "suffix" (·.keepEnd) (fun p v => { p with keepEnd := v }) (optional natural),
      .of "regex" (·.pattern) (fun p v => { p with pattern := v }) (optional string),
      .of "must_match" (·.mustMatch) (fun p v => { p with mustMatch := v }) (optional boolean)]
  start := {}
  finish? p := do
    let path ← p.path
    let kind ← p.kind
    return {
      path, kind
      keepStart? := p.keepStart.join
      keepEnd? := p.keepEnd.join
      pattern? := p.pattern.join
      mustMatch? := p.mustMatch.join }

def reader : Json.Reader FieldSpec := record.read

end FieldSpec

end FieldSeal

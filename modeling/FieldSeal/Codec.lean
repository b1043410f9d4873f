import FieldSeal.Mask.Masker
import FieldSeal.Service

/-!
# Protecting single values

**Protecting** masks a value, which validates it first, and seals it together with its mask.
**Revealing** opens what looks like an envelope. Any other value passes if it satisfies the pattern
of the rule, so that values stored before they were protected can still be read.

Empty values are left alone in both directions.
-/

namespace FieldSeal

structure Codec where
  service : Service
  masker : Masker := {}

namespace Codec

abbrev Step (α : Type) := Action Codec FieldError α

def onService {α : Type} (a : Service.Step α) : Step α :=
  Action.mapError .envelope (Action.on (·.service) (fun service c => { c with service }) a)

def onMasker {α : Type} (a : Masker.Step α) : Step α :=
  Action.mapError .mask (Action.on (·.masker) (fun masker c => { c with masker }) a)

/-- The sealed text of a value, with its mask. -/
def protect (rule : MaskRule) (value : String) : Step String :=
  if value.isEmpty then pure ""
  else do
    let mask ← onMasker (Masker.mask rule value)
    onService (Service.encryptWithMask value mask)

/-- The value behind a text. -/
def reveal (rule : MaskRule) (text : String) : Step String :=
  if text.isEmpty then pure ""
  else if Envelope.isEnvelope text then onService (Service.decrypt text)
  else do
    if ← onMasker (Masker.accepts rule text) then return text
    else throw (.mask (.rejected rule.kind))

end Codec

end FieldSeal

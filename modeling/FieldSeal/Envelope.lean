import FieldSeal.Suite

/-!
# Envelopes

A sealed value together with all that is needed to open it except the keys. The text form is in
`FieldSeal.Envelope.Wire`.
-/

namespace FieldSeal

/-- A sealed value. -/
structure Envelope where
  suite : Suite
  nonce : List UInt8
  ciphertext : List UInt8
  /-- The authentication tag. -/
  tag : List UInt8
  deriving DecidableEq, Repr

end FieldSeal

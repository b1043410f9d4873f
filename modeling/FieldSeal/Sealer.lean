import FieldSeal.Action
import FieldSeal.Bytes.Utf8
import FieldSeal.Envelope.Wire
import FieldSeal.Key.Pair

/-!
# Sealers

A sealer turns texts into envelopes of one suite and back. It draws random bytes only when it
encrypts, and only after it has found its keys.
-/

namespace FieldSeal

structure Sealer where
  name : String
  suite : Suite
  encrypt : KeyPair → String → Action Entropy EnvelopeError Envelope
  decrypt : KeyPair → Envelope → Except EnvelopeError String

namespace Sealer

/-- The text names the suite of the sealer. -/
def supports (s : Sealer) (text : String) : Bool :=
  match Envelope.peek text with
  | .ok suite => suite = s.suite
  | .error _ => false

/-- Only envelopes of the suite, with a nonce of the right length, are opened. -/
def check (suite : Suite) (e : Envelope) : Except EnvelopeError Unit :=
  if e.suite ≠ suite then .error (.malformed .otherSuite)
  else if e.nonce.length ≠ suite.nonceLength then .error (.malformed .nonceLength)
  else .ok ()

/-- The text behind decrypted bytes; bytes that are no text are a failure of the cipher. -/
def textOf (suite : Suite) (bytes : Option (List UInt8)) : Except EnvelopeError String :=
  match bytes.bind Utf8.decode? with
  | some text => .ok text
  | none => .error (.cipher suite)

end Sealer

end FieldSeal

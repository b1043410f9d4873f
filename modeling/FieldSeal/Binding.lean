import FieldSeal.Registry

/-!
# Bindings

A binding fixes the sealer with which values are sealed and opened. It follows its registry only
when it is bound anew, either to a suite or to the suite of a text that it opens.
-/

namespace FieldSeal

structure Binding where
  sealer : Sealer

namespace Binding

/-- A binding to the sealer that the registry has for a suite. -/
def new (r : Registry) (suite : Suite) : Except EnvelopeError Binding :=
  (r.get suite).map Binding.mk

def suite (b : Binding) : Suite := b.sealer.suite

/-- Bind anew to a suite; a suite that is not registered leaves the binding as it was. -/
def setSuite (r : Registry) (suite : Suite) : Action Binding EnvelopeError Unit := fun b =>
  match r.get suite with
  | .ok s => (.ok (), { b with sealer := s })
  | .error e => (.error e, b)

def encrypt (keys : KeyPair) (text : String) (b : Binding) :
    Action Entropy EnvelopeError Envelope :=
  b.sealer.encrypt keys text

def decrypt (keys : KeyPair) (e : Envelope) (b : Binding) : Except EnvelopeError String :=
  b.sealer.decrypt keys e

/-- Open a text with the sealer that supports it, to which the binding moves before it decrypts. -/
def decryptWire (r : Registry) (keys : KeyPair) (text : String) :
    Action Binding EnvelopeError String := fun b =>
  match Envelope.parse text with
  | .error e => (.error e, b)
  | .ok envelope =>
    match r.forEnvelope text with
    | .error e => (.error e, b)
    | .ok s => (s.decrypt keys envelope, { b with sealer := s })

end Binding

end FieldSeal

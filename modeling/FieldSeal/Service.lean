import FieldSeal.Binding
import FieldSeal.Key.Supply
import FieldSeal.Policy

/-!
# The envelope service

**Sealing** asks the policy for a suite, finds the binding and the keys of that suite, and encrypts.
**Opening** takes the suite from the envelope itself; the policy has no part in it.

**Bindings** are made once for each suite and kept. They are numbered in the order in which they are
made, so that two of them can be told apart. Registering a sealer through the service drops the
binding of its suite, and the next use makes a new one.
-/

namespace FieldSeal

/-- A kept binding and its number. -/
structure Kept where
  serial : Nat
  binding : Binding

structure Service where
  registry : Registry
  policy : Policy
  supply : KeySupply
  kept? : Suite → Option Kept := fun _ => none
  /-- The number of bindings made so far. -/
  made : Nat := 0
  host : Host

namespace Service

/-- A service with the built-in sealers, which reports their registration. -/
def standard (policy : Policy) (supply : KeySupply) (host : Host) : Service where
  registry := .standard
  policy := policy
  supply := supply
  host := (host.report (.registered .gm)).report (.registered .modern)

abbrev Step (α : Type) := Action Service EnvelopeError α

def report (e : Event) : Step Unit := Action.total fun s => ((), { s with host := s.host.report e })

/-- Perform an action on the random bytes. -/
def onEntropy {α : Type} (a : Action Entropy EnvelopeError α) : Step α :=
  Action.on (·.host.entropy) (fun entropy s => { s with host := { s.host with entropy } }) a

/-- Ask the policy for the suite of the next encryption. -/
def activeSuite : Step Suite := Action.total fun s =>
  (s.policy.ask.1, { s with policy := s.policy.ask.2 })

def supportedSuites (s : Service) : List Suite := s.registry.suites

/-- Register a sealer, and forget the binding of its suite. -/
def register (sealer : Sealer) : Step Unit := Action.total fun s =>
  ((), { s with
    registry := s.registry.register sealer
    kept? := fun suite => if suite = sealer.suite then none else s.kept? suite
    host := s.host.report (.registered sealer.suite) })

/-- The binding of a suite, made and kept when there is none yet. -/
def bindingFor (suite : Suite) : Step Kept := fun s =>
  match s.kept? suite with
  | some kept => (.ok kept, s)
  | none =>
    match Binding.new s.registry suite with
    | .error e => (.error e, s)
    | .ok binding =>
      let kept : Kept := { serial := s.made, binding }
      (.ok kept, { s with
        kept? := fun other => if other = suite then some kept else s.kept? other
        made := s.made + 1 })

/-- The keys of a suite from the supply. -/
def pairFor (suite : Suite) : Step KeyPair :=
  Action.on (fun s => (s.supply, s.host)) (fun (supply, host) s => { s with supply, host })
    (KeySupply.pairFor suite)

/-! ## Sealing -/

/-- Seal a text under the suite that the policy names. -/
def encrypt (text : String) : Step Envelope := do
  let suite ← activeSuite
  let kept ← bindingFor suite
  let keys ← pairFor suite
  let envelope ← onEntropy (kept.binding.encrypt keys text)
  report (.encrypted suite)
  return envelope

/-- The sealed text with a display mask. -/
def encryptWithMask (text mask : String) : Step String := do
  let envelope ← encrypt text
  Action.ofExcept (envelope.withMask mask)

/-! ## Opening -/

/-- Open an envelope with keys that the caller has. -/
def decryptWith (keys : KeyPair) (e : Envelope) : Step String := do
  let kept ← bindingFor e.suite
  match kept.binding.decrypt keys e with
  | .ok text =>
    report (.decrypted e.suite)
    return text
  | .error (.tampered suite) =>
    report (.failedAuthentication e.suite)
    throw (.tampered suite)
  | .error cause => throw cause

/-- Open an envelope with keys from the supply. -/
def decryptEnvelope (e : Envelope) : Step String := do
  let keys ← pairFor e.suite
  decryptWith keys e

/-- Open a text. -/
def decrypt (text : String) : Step String := do
  let e ← Action.ofExcept (Envelope.parse text)
  decryptEnvelope e

end Service

end FieldSeal

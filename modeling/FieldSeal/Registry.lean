import FieldSeal.Sealer.Gm
import FieldSeal.Sealer.Modern

/-!
# Registries

A registry holds at most one sealer for each suite. Registering a sealer displaces the one that was
there for its suite.
-/

namespace FieldSeal

structure Registry where
  sealer? : Suite → Option Sealer := fun _ => none

namespace Registry

def empty : Registry := {}

/-- The registry with a sealer added. -/
def register (s : Sealer) (r : Registry) : Registry :=
  ⟨fun suite => if suite = s.suite then some s else r.sealer? suite⟩

/-- Register a sealer and report it. The answer is the sealer that it displaces. -/
def put (s : Sealer) : Registry × Host → Option Sealer × Registry × Host
  | (r, host) => (r.sealer? s.suite, r.register s, host.report (.registered s.suite))

/-- The registry with the two built-in sealers. -/
def standard : Registry := (empty.register .gm).register .modern

/-- The suites that have a sealer, in order. -/
def suites (r : Registry) : List Suite := Suite.all.filter fun suite => (r.sealer? suite).isSome

/-- The sealer for a suite. -/
def get (r : Registry) (suite : Suite) : Except EnvelopeError Sealer :=
  match r.sealer? suite with
  | some s => .ok s
  | none => .error (.unsupported suite)

/-- The sealers, in the order of their suites. -/
def sealers (r : Registry) : List Sealer := Suite.all.filterMap r.sealer?

/-- The sealer that supports a text; without one, the reason. -/
def forEnvelope (r : Registry) (text : String) : Except EnvelopeError Sealer :=
  match r.sealers.find? (·.supports text) with
  | some s => .ok s
  | none => (Envelope.peek text).bind fun suite => .error (.unsupported suite)

@[simp] theorem sealer?_register_self (s : Sealer) (r : Registry) :
    (r.register s).sealer? s.suite = some s := by simp [register]

theorem sealer?_register_of_ne {s : Sealer} {suite : Suite} (r : Registry) (h : suite ≠ s.suite) :
    (r.register s).sealer? suite = r.sealer? suite := by simp [register, h]

end Registry

end FieldSeal

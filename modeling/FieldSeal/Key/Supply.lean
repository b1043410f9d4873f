import FieldSeal.Key.Ring

/-!
# Key supplies

A supply answers the question which keys belong to a suite. A *fixed* supply always gives the same
answer. A *generated* supply makes its keys on demand and keeps them in a ring; it warns once that
they are lost when the program ends.
-/

namespace FieldSeal

inductive KeySupply where
  /-- The answers are given, once and for all. -/
  | fixed (answer : Suite → Except EnvelopeError KeyPair)
  /-- Keys from a ring, and whether the warning was given. -/
  | generated (ring : KeyRing) (warned : Bool)

namespace KeySupply

/-- A supply with a pair for some suites; the others get a pair without keys. -/
def ofPairs (pair? : Suite → Option KeyPair) : KeySupply :=
  .fixed fun suite => .ok ((pair? suite).getD {})

/-- A supply whose keys are still to be made. -/
def fresh : KeySupply := .generated {} false

/-- A supply that has no keys for any suite and refuses with the same error always. -/
def refusing (e : EnvelopeError) : KeySupply := .fixed fun _ => .error e

/-- The keys for a suite. -/
def pairFor (suite : Suite) : Action (KeySupply × Host) EnvelopeError KeyPair
  | (.fixed answer, host) => (answer suite, .fixed answer, host)
  | (.generated ring warned, host) =>
    let host := if warned then host else host.report .usingGeneratedKeys
    match KeyRing.pairFor suite (ring, host) with
    | (pair, ring, host) => (.ok pair, .generated ring true, host)

end KeySupply

end FieldSeal

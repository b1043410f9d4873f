import FieldSeal.Suite

/-!
# Policies

A policy says which suite seals new values. It is asked once for each encryption and may answer
differently each time.
-/

namespace FieldSeal

/-- The answers of a policy in the order of the questions, and the number of questions so far. -/
structure Policy where
  answer : Nat → Suite
  asked : Nat := 0

namespace Policy

/-- The policy that always gives the same answer. -/
def always (suite : Suite) : Policy := { answer := fun _ => suite }

/-- The next answer. -/
def ask (p : Policy) : Suite × Policy := (p.answer p.asked, { p with asked := p.asked + 1 })

@[simp] theorem ask_always (suite : Suite) : (always suite).ask.1 = suite := rfl

end Policy

end FieldSeal

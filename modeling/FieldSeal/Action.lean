import FieldSeal.Entropy
import FieldSeal.Event

/-!
# Actions

An action reads and changes a state and may fail. What it changed before it failed stays changed.
A `Host` is the part of the state that all actions share: the random bytes they take and the events
they report.
-/

namespace FieldSeal

/-- A step that may fail; the state of a failed step is kept. -/
abbrev Action (σ ε α : Type) := ExceptT ε (StateM σ) α

namespace Action

variable {σ τ ε δ α β : Type}

/-- Perform an action on a part of the state. -/
def on (part : σ → τ) (replace : τ → σ → σ) (a : Action τ ε α) : Action σ ε α := fun s =>
  match a (part s) with
  | (result, t) => (result, replace t s)

/-- Perform an action with its errors renamed. -/
def mapError (f : ε → δ) (a : Action σ ε α) : Action σ δ α := fun s =>
  match a s with
  | (.ok value, s) => (.ok value, s)
  | (.error e, s) => (.error (f e), s)

/-- An outcome that needs no state. -/
def ofExcept (r : Except ε α) : Action σ ε α := fun s => (r, s)

/-- A step that cannot fail. -/
def total (f : σ → α × σ) : Action σ ε α := fun s =>
  match f s with
  | (value, s) => (.ok value, s)

end Action

/-- Random bytes and reported events. -/
structure Host where
  entropy : Entropy
  /-- The events so far, the oldest first. -/
  events : List Event := []

namespace Host

def draw (n : Nat) (h : Host) : List UInt8 × Host :=
  ((h.entropy.draw n).1, { h with entropy := (h.entropy.draw n).2 })

def report (e : Event) (h : Host) : Host := { h with events := h.events ++ [e] }

@[simp] theorem events_draw (n : Nat) (h : Host) : (h.draw n).2.events = h.events := rfl

@[simp] theorem entropy_report (e : Event) (h : Host) : (h.report e).entropy = h.entropy := rfl

@[simp] theorem events_report (e : Event) (h : Host) : (h.report e).events = h.events ++ [e] := rfl

end Host

end FieldSeal

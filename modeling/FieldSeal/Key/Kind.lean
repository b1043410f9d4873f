import FieldSeal.Suite

/-!
# Kinds of keys

Each suite needs certain kinds of keys, and each kind has one length.
-/

namespace FieldSeal

/-- What a key is for, in the order in which the kinds are listed. -/
inductive KeyKind where
  | modernEncryption
  | gmEncryption
  | gmMac
  deriving DecidableEq, Repr

namespace KeyKind

def all : List KeyKind := [.modernEncryption, .gmEncryption, .gmMac]

/-- The name of the kind in texts and settings. -/
def id : KeyKind → String
  | .modernEncryption => "MODERN_ENCRYPTION"
  | .gmEncryption => "GM_ENCRYPTION"
  | .gmMac => "GM_MAC"

/-- The kind with exactly this name. -/
def ofId? (id : String) : Option KeyKind := all.find? (·.id == id)

/-- The number of bytes of a key of this kind. -/
def length : KeyKind → Nat
  | .modernEncryption => 32
  | .gmEncryption => 16
  | .gmMac => 32

/-- The suite that uses the kind. -/
def suite : KeyKind → Suite
  | .modernEncryption => .modern
  | .gmEncryption => .gm
  | .gmMac => .gm

/-- The kinds that a suite needs, in the order in which it asks for them. -/
def requiredBy : Suite → List KeyKind
  | .gm => [.gmEncryption, .gmMac]
  | .modern => [.modernEncryption]

@[simp] theorem ofId?_id (k : KeyKind) : ofId? k.id = some k := by cases k <;> decide

theorem mem_all (k : KeyKind) : k ∈ all := by cases k <;> decide

theorem mem_requiredBy_iff (k : KeyKind) (s : Suite) : k ∈ requiredBy s ↔ k.suite = s := by
  cases k <;> cases s <;> decide

end KeyKind

end FieldSeal

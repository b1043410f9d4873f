import FieldSeal.Action
import FieldSeal.Key.Pair

/-!
# Key rings

A ring keeps generated keys, one for each kind, and makes a key the first time its kind is asked
for.
-/

namespace FieldSeal

/-- The keys generated so far. -/
structure KeyRing where
  key? : KeyKind → Option SecretKey := fun _ => none

namespace KeyRing

/-- A fresh key, kept nowhere. -/
def generate (kind : KeyKind) (host : Host) : SecretKey × Host :=
  match host.draw kind.length with
  | (bytes, host) => (⟨bytes⟩, host)

def insert (ring : KeyRing) (kind : KeyKind) (key : SecretKey) : KeyRing :=
  ⟨fun k => if k = kind then some key else ring.key? k⟩

/-- The kinds for which the ring has a key. -/
def kinds (ring : KeyRing) : List KeyKind := KeyKind.all.filter fun k => (ring.key? k).isSome

def size (ring : KeyRing) : Nat := ring.kinds.length

/-- The key of a kind, generated and reported when there is none yet. -/
def get (kind : KeyKind) : KeyRing × Host → SecretKey × KeyRing × Host
  | (ring, host) =>
    match ring.key? kind with
    | some key => (key, ring, host)
    | none =>
      match generate kind (host.report (.generatedKey kind)) with
      | (key, host) => (key, ring.insert kind key, host)

/-- The keys that a suite needs. -/
def pairFor (suite : Suite) (state : KeyRing × Host) : KeyPair × KeyRing × Host :=
  match suite with
  | .modern =>
    match get .modernEncryption state with
    | (key, state) => ({ encryption := some key }, state)
  | .gm =>
    match get .gmEncryption state with
    | (key, state) =>
      match get .gmMac state with
      | (mac, state) => ({ encryption := some key, mac := some mac }, state)

@[simp] theorem key?_insert_self (ring : KeyRing) (kind : KeyKind) (key : SecretKey) :
    (ring.insert kind key).key? kind = some key := by simp [insert]

theorem key?_insert_of_ne (ring : KeyRing) {kind k : KeyKind} (key : SecretKey) (h : k ≠ kind) :
    (ring.insert kind key).key? k = ring.key? k := by simp [insert, h]

end KeyRing

end FieldSeal

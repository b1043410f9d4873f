/-!
# Cipher suites

A suite fixes the cipher, the integrity algorithm and the nonce length of an envelope. There are
two of them, told apart by the code that an envelope carries in its text.
-/

namespace FieldSeal

/-- The suites, in the order in which they are listed. -/
inductive Suite where
  /-- Block cipher and keyed hash of the national standard. -/
  | gm
  /-- Authenticated stream cipher. -/
  | modern
  deriving DecidableEq, Repr

namespace Suite

def all : List Suite := [.gm, .modern]

/-- The code that names the suite in texts and settings. -/
def code : Suite → String
  | .gm => "GM"
  | .modern => "MODERN"

/-- The suite with exactly this code. -/
def ofCode? (code : String) : Option Suite := all.find? (·.code == code)

def description : Suite → String
  | .gm => "GM national standard (SM4-CBC + HMAC-SM3)"
  | .modern => "Modern AEAD (ChaCha20-Poly1305)"

def cipher : Suite → String
  | .gm => "SM4/CBC/PKCS7Padding"
  | .modern => "ChaCha20-Poly1305"

def integrity : Suite → String
  | .gm => "HMAC-SM3"
  | .modern => "Poly1305"

/-- The number of bytes drawn for each encryption. -/
def nonceLength : Suite → Nat
  | .gm => 16
  | .modern => 12

@[simp] theorem ofCode?_code (s : Suite) : ofCode? s.code = some s := by cases s <;> decide

theorem mem_all (s : Suite) : s ∈ all := by cases s <;> decide

end Suite

end FieldSeal

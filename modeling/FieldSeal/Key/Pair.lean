import FieldSeal.Bytes.Base64Url
import FieldSeal.Error
import FieldSeal.Unicode.Blank

/-!
# Keys and key pairs

A key is a byte string. A pair has a slot for the encryption key and one for the key of the
authenticator; which slots a suite needs is said by the kinds it requires.
-/

namespace FieldSeal

/-- The bytes of a key. -/
structure SecretKey where
  bytes : List UInt8
  deriving DecidableEq

namespace SecretKey

/-- A key of a kind must have the length of the kind. -/
def ofBytes (kind : KeyKind) (bytes : List UInt8) : Except EnvelopeError SecretKey :=
  if bytes.length = kind.length then .ok ⟨bytes⟩ else .error (.keyLength kind)

/-- The key written in base64url, blanks at either end aside. -/
def ofBase64 (kind : KeyKind) (text : String) : Except EnvelopeError SecretKey :=
  match Base64Url.decode? (Unicode.trim text) with
  | some bytes => ofBytes kind bytes
  | none => .error (.keyEncoding kind)

/-- What is shown in place of a key. -/
def redacted (_ : SecretKey) : String := "SecretKey([REDACTED])"

end SecretKey

/-- The keys handed to a suite. -/
structure KeyPair where
  encryption : Option SecretKey := none
  mac : Option SecretKey := none
  deriving DecidableEq

namespace KeyPair

/-- The slot that holds keys of a kind. -/
def slot (pair : KeyPair) : KeyKind → Option SecretKey
  | .gmMac => pair.mac
  | .modernEncryption | .gmEncryption => pair.encryption

/-- The key of a kind, with the length of the kind. -/
def require (pair : KeyPair) (suite : Suite) (kind : KeyKind) : Except EnvelopeError SecretKey :=
  match pair.slot kind with
  | none => .error (.missingKey suite kind)
  | some key => if key.bytes.length = kind.length then .ok key else .error (.keyLength kind)

end KeyPair

end FieldSeal

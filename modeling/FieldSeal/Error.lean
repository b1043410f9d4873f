import FieldSeal.Key.Kind
import FieldSeal.Mask.Kind

/-!
# Errors

Each failure names its cause; the wording is derived from the cause in one place. No error carries
key bytes, random bytes or plaintext.
-/

namespace FieldSeal

/-- Why a text or a value is not a usable envelope. -/
inductive Malformation where
  /-- The text is not the sentinel followed by five fields. -/
  | fieldCount
  /-- The text does not start like an envelope. -/
  | sentinel
  /-- A byte field is not base64url. -/
  | base64
  /-- The nonce does not have the length of its suite. -/
  | nonceLength
  /-- The value belongs to another suite than the one asked to open it. -/
  | otherSuite
  /-- A display mask holds the field delimiter. -/
  | maskDelimiter
  deriving DecidableEq, Repr

def Malformation.message : Malformation → String
  | .fieldCount => "expected `_mask|` followed by five fields"
  | .sentinel => "missing `_mask|` sentinel"
  | .base64 => "invalid base64url field"
  | .nonceLength => "nonce length does not match the algorithm"
  | .otherSuite => "envelope was produced by a different suite"
  | .maskDelimiter => "display mask must not contain the field delimiter"

/-- Failures of sealing, of opening and of the keys for either. -/
inductive EnvelopeError where
  | unknownSuite (code : String)
  | unknownKeyKind (id : String)
  | missingKey (suite : Suite) (kind : KeyKind)
  | keyLength (kind : KeyKind)
  | keyEncoding (kind : KeyKind)
  | malformed (cause : Malformation)
  /-- Authentication failed. -/
  | tampered (suite : Suite)
  | unsupported (suite : Suite)
  /-- The cipher failed although authentication did not. -/
  | cipher (suite : Suite)
  deriving DecidableEq, Repr

def EnvelopeError.message : EnvelopeError → String
  | .unknownSuite code => "unknown algorithm code: " ++ code
  | .unknownKeyKind id => "unknown key kind: " ++ id
  | .missingKey suite kind => "missing " ++ kind.id ++ " key for " ++ suite.code ++ " suite"
  | .keyLength kind =>
    "invalid " ++ kind.id ++ " key length: expected " ++ toString kind.length ++ " bytes"
  | .keyEncoding kind => "invalid " ++ kind.id ++ " key encoding"
  | .malformed cause => "malformed envelope: " ++ cause.message
  | .tampered suite => "integrity check failed for " ++ suite.code ++ " envelope"
  | .unsupported suite => "no encryption strategy registered for " ++ suite.code
  | .cipher suite => suite.code ++ " cipher operation failed"

/-- Failures of masking. -/
inductive MaskError where
  /-- The value does not satisfy the pattern of its rule. -/
  | rejected (kind : SensitiveKind)
  | tooShort (keep length : Nat)
  | invalidEmail
  | invalidPattern
  deriving DecidableEq, Repr

def MaskError.message : MaskError → String
  | .rejected kind => "value does not satisfy the " ++ kind.name ++ " validation rule"
  | .tooShort keep length =>
    "value is too short to mask: keeping " ++ toString keep ++ " of " ++ toString length ++
      " characters"
  | .invalidEmail => "invalid email address"
  | .invalidPattern => "invalid validation pattern"

/-- Failures of protecting or revealing a field. -/
inductive FieldError where
  | envelope (cause : EnvelopeError)
  | mask (cause : MaskError)
  deriving DecidableEq, Repr

def FieldError.message : FieldError → String
  | .envelope cause => cause.message
  | .mask cause => cause.message

/-- There is no kind of sensitive values with this name. -/
structure UnknownKind where
  name : String
  deriving DecidableEq, Repr

def UnknownKind.message (e : UnknownKind) : String := "unknown sensitive type: " ++ e.name

/-- The suite with this code, or the error that names the code. -/
def Suite.ofCode (code : String) : Except EnvelopeError Suite :=
  match ofCode? code with
  | some suite => .ok suite
  | none => .error (.unknownSuite code)

/-- The kind with this name, or the error that names it. -/
def KeyKind.ofId (id : String) : Except EnvelopeError KeyKind :=
  match ofId? id with
  | some kind => .ok kind
  | none => .error (.unknownKeyKind id)

/-- The kind of sensitive values with this name, or the error that names it. -/
def SensitiveKind.ofName (name : String) : Except UnknownKind SensitiveKind :=
  match ofName? name with
  | some kind => .ok kind
  | none => .error ⟨name⟩

end FieldSeal

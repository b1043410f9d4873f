import FieldSeal.Exchange.Message

/-!
# Failures of requests

Whatever goes wrong with a request is either the fault of the request, a failure of a cipher, or a
want of keys or suites. This decides the status of the answer.
-/

namespace FieldSeal.Exchange

inductive Failure where
  | badRequest (message : String)
  | encryptionFailure (message : String)
  | unavailable (message : String)
  deriving DecidableEq, Repr

namespace Failure

/-- The status of an answer that reports the failure. -/
def status : Failure → Nat
  | .badRequest _ => 400
  | .encryptionFailure _ => 500
  | .unavailable _ => 503

def code : Failure → String
  | .badRequest _ => "bad_request"
  | .encryptionFailure _ => "encryption_failure"
  | .unavailable _ => "service_unavailable"

def message : Failure → String
  | .badRequest m | .encryptionFailure m | .unavailable m => m

/-- The message with the sort of failure in front. -/
def describe : Failure → String
  | .badRequest m => "bad request: " ++ m
  | .encryptionFailure m => "encryption failure: " ++ m
  | .unavailable m => "service unavailable: " ++ m

def refusal (f : Failure) : Refusal := { code := f.code, message := f.message }

/-- The failure that an unknown kind in a specification means for the request. -/
def ofUnknownKind (e : UnknownKind) : Failure := .badRequest e.message

/-- The failure that an error in a field means for the request. -/
def ofFieldError (e : FieldError) : Failure :=
  match e with
  | .mask _ => .badRequest e.message
  | .envelope cause =>
    match cause with
    | .unknownSuite _ | .unknownKeyKind _ | .malformed _ | .tampered _ => .badRequest e.message
    | .missingKey _ _ | .keyLength _ | .keyEncoding _ | .unsupported _ => .unavailable e.message
    | .cipher _ => .encryptionFailure e.message

end Failure

/-- The rules of specifications; the first one with an unknown kind is refused. -/
def resolve (specs : List FieldSpec) : Except Failure (List FieldRule) :=
  specs.mapM fun spec => spec.resolve.mapError .ofUnknownKind

end FieldSeal.Exchange

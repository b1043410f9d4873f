/-!
# Requests and answers
-/

namespace FieldSeal.Http

structure Request where
  method : String
  /-- The path, and behind a question mark what is asked of it. -/
  target : String
  contentType? : Option String
  body : String

structure Response where
  status : Nat
  contentType? : Option String := none
  /-- The methods that are answered at the place of the request. -/
  allow? : Option String := none
  body : String := ""
  deriving DecidableEq, Repr

namespace Response

def json (status : Nat) (body : String) : Response :=
  { status, contentType? := some "application/json", body }

def plain (status : Nat) (body : String) : Response :=
  { status, contentType? := some "text/plain; charset=utf-8", body }

end Response

end FieldSeal.Http

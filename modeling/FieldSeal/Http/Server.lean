import FieldSeal.Exchange.Failure
import FieldSeal.Http.MediaType
import FieldSeal.Http.Message
import FieldSeal.Settings

/-!
# The server

Documents are protected at `/protect` and revealed at `/reveal`; `/health` tells whether the service
is at work.

**Order of refusals.** A body is refused for its media type before its length, for its length before
its text, and for its text before its content. Nothing is changed by a request whose field
specifications cannot be resolved.
-/

namespace FieldSeal.Http

/-! ## Places -/

inductive Place where
  | protect
  | reveal
  | health
  deriving DecidableEq, Repr

namespace Place

/-- The path in front of a query or a fragment. -/
def pathOf (target : String) : String :=
  String.ofList (target.toList.takeWhile fun c => c ≠ '?' && c ≠ '#')

def ofTarget? (target : String) : Option Place :=
  match pathOf target with
  | "/protect" => some .protect
  | "/reveal" => some .reveal
  | "/health" => some .health
  | _ => none

/-- The methods that are answered. -/
def methods : Place → List String
  | .protect | .reveal => ["POST"]
  | .health => ["GET", "HEAD"]

end Place

/-! ## Bodies -/

/-- The greatest number of bytes of a body. -/
def bodyLimit : Nat := 2 * 1024 * 1024

/-- The content type says that the body is JSON. -/
def hasJsonBody (r : Request) : Bool :=
  match r.contentType?.bind MediaType.parse? with
  | some m => m.isJson
  | none => false

/-- The message in the body of a request, or the answer that refuses it. -/
def decode (r : Request) : Except Response Exchange.Request :=
  if ¬hasJsonBody r then
    .error (.plain 415 "Expected request with `Content-Type: application/json`")
  else if r.body.utf8ByteSize > bodyLimit then
    .error (.plain 413 "Failed to buffer the request body: length limit exceeded")
  else
    match Json.readStart Exchange.Request.reader r.body with
    | .ok message => .ok message
    | .error .text => .error (.plain 400 "Failed to parse the request body as JSON")
    | .error .shape =>
      .error (.plain 422 "Failed to deserialize the JSON body into the target type")

/-! ## Answers -/

def refuse (f : Exchange.Failure) : Response := .json f.status f.refusal.write

/-- Change the document of a message, or report why not all of it could be changed. -/
def change (walk : List FieldRule → Document.Walk Codec FieldError) (failed : String → Event)
    (message : Exchange.Request) (c : Codec) : Response × Codec :=
  match Exchange.resolve message.fields with
  | .error failure => (refuse failure, c)
  | .ok rules =>
    match walk rules (message.payload, c) with
    | (.ok (), payload, c) => (.json 200 (Exchange.Answer.mk payload).write, c)
    | (.error e, _, c) =>
      let service := { c.service with host := c.service.host.report (failed e.message) }
      (refuse (.ofFieldError e), { c with service })

/-- The answer to a request that asks for a change. -/
def answerChange (walk : List FieldRule → Document.Walk Codec FieldError) (failed : String → Event)
    (r : Request) (c : Codec) : Response × Codec :=
  match decode r with
  | .error refusal => (refusal, c)
  | .ok message => change walk failed message c

/-- The state of the service. The policy is asked for the suite of new values. -/
def health (c : Codec) : Exchange.Health × Codec :=
  match c.service.policy.ask with
  | (suite, policy) =>
    ({ status := "ok"
       activeMode := suite.code
       supportedModes := c.service.supportedSuites.map Suite.code },
      { c with service := { c.service with policy } })

def notFound : Response :=
  .json 404 (Exchange.Refusal.write
    { code := "not_found", message := "the requested resource does not exist" })

/-- The answer to a request. -/
def respond (r : Request) (c : Codec) : Response × Codec :=
  match Place.ofTarget? r.target with
  | none => (notFound, c)
  | some place =>
    if r.method ∉ place.methods then
      ({ status := 405, allow? := some (",".intercalate place.methods) }, c)
    else
      match place with
      | .protect => answerChange Document.protectFields .protectFailed r c
      | .reveal => answerChange Document.revealFields .revealFailed r c
      | .health =>
        match health c with
        | (h, c) =>
          let response := Response.json 200 h.write
          (if r.method = "HEAD" then { response with body := "" } else response, c)

/-! ## Starting -/

/-- A server that protects new values under a suite. -/
def start (suite : Suite) (supply : KeySupply) (host : Host) : Codec :=
  { service := Service.standard (.always suite) supply host }

/-- A server with the given settings. The binding of its suite is made at once. -/
def startWith (s : Settings) (host : Host) : Codec :=
  match s.supply host with
  | (supply, host) =>
    { service := (Service.bindingFor s.suite (start s.suite supply host).service).2 }

/-- A server without settings. -/
def startDefault (host : Host) : Codec := start .modern .fresh host

end FieldSeal.Http

import FieldSeal.Exchange.FieldSpec

/-!
# Messages

What clients and the service send to each other, with their text forms. The members are written in
a fixed order.
-/

namespace FieldSeal.Exchange

open Json Reader

/-- A document, and the fields of it that are to be protected or revealed. -/
structure Request where
  payload : Json
  fields : List FieldSpec

/-- The document with its fields protected or revealed. -/
structure Answer where
  payload : Json

/-- Why there is no document. -/
structure Refusal where
  /-- A short name of the reason. -/
  code : String
  /-- An explanation for people. -/
  message : String
  deriving DecidableEq, Repr

/-- The state of a service that is at work. -/
structure Health where
  status : String
  /-- The code of the suite that protects new values. -/
  activeMode : String
  /-- The codes of the suites that can be revealed. -/
  supportedModes : List String
  deriving DecidableEq, Repr

/-! ## Writing -/

def Request.write (r : Request) : String :=
  writeObject [("payload", r.payload.write), ("fields", writeArray (r.fields.map FieldSpec.write))]

def Answer.write (a : Answer) : String := writeObject [("payload", a.payload.write)]

def Refusal.write (r : Refusal) : String :=
  writeObject [("code", quote r.code), ("message", quote r.message)]

def Health.write (h : Health) : String :=
  writeObject [("status", quote h.status), ("active_mode", quote h.activeMode),
    ("supported_modes", writeArray (h.supportedModes.map quote))]

/-! ## Reading -/

def Request.reader : Reader Request :=
  Record.read {
    fields :=
      [.of "payload" (·.1) (fun (_, fields) v => (v, fields)) document,
        .of "fields" (·.2) (fun (payload, _) v => (payload, v)) (list FieldSpec.reader)]
    start := ((none, none) : Option Json × Option (List FieldSpec))
    finish? := fun (payload?, fields?) => do return { payload := ← payload?, fields := ← fields? } }

def Answer.reader : Reader Answer :=
  Record.read {
    fields := [.of "payload" id (fun _ v => v) document]
    start := (none : Option Json)
    finish? := fun payload? => payload?.map Answer.mk }

def Refusal.reader : Reader Refusal :=
  Record.read {
    fields :=
      [.of "code" (·.1) (fun (_, message) v => (v, message)) string,
        .of "message" (·.2) (fun (code, _) v => (code, v)) string]
    start := ((none, none) : Option String × Option String)
    finish? := fun (code?, message?) => do return { code := ← code?, message := ← message? } }

def Health.reader : Reader Health :=
  Record.read {
    fields :=
      [.of "status" (·.1) (fun (_, rest) v => (v, rest)) string,
        .of "active_mode" (·.2.1) (fun (status, _, modes) v => (status, v, modes)) string,
        .of "supported_modes" (·.2.2) (fun (status, active, _) v => (status, active, v))
          (list string)]
    start := ((none, none, none) : Option String × Option String × Option (List String))
    finish? := fun (status?, active?, modes?) => do
      return { status := ← status?, activeMode := ← active?, supportedModes := ← modes? } }

end FieldSeal.Exchange

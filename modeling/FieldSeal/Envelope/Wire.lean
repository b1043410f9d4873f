import FieldSeal.Bytes.Base64Url
import FieldSeal.Envelope
import FieldSeal.Error
import FieldSeal.Text.Split

/-!
# The text form of envelopes

**Form.** `_mask|CODE|NONCE|CIPHERTEXT|TAG|MASK`: a sentinel, the code of the suite, three byte
fields in base64url, and a display mask for people to read. The mask is no part of the sealed value
and may not hold the delimiter.

**Readers.** Several questions are asked of a text before it is opened, each with its own looseness:

- `isEnvelope`: does it start like an envelope?
- `peek`: which suite does it name?
- `displayMask`: what does it show, if it has the right number of fields?
- `parse`: which envelope is it, if it is one in every part?
-/

namespace FieldSeal.Envelope

def sentinel : String := "_mask"

def delimiter : Char := '|'

/-- The parts of a text between delimiters. -/
def split (text : String) : List String := Text.split delimiter text

/-! ## Writing -/

/-- The text with an empty display mask. -/
def toWire (e : Envelope) : String :=
  sentinel ++ "|" ++ e.suite.code ++ "|" ++ Base64Url.encode e.nonce ++ "|" ++
    Base64Url.encode e.ciphertext ++ "|" ++ Base64Url.encode e.tag ++ "|"

/-- The text with a display mask. -/
def withMask (e : Envelope) (mask : String) : Except EnvelopeError String :=
  if delimiter ∈ mask.toList then .error (.malformed .maskDelimiter) else .ok (e.toWire ++ mask)

/-! ## Reading -/

/-- The text starts with the sentinel and a delimiter. -/
def isEnvelope (text : String) : Bool := (sentinel.toList ++ [delimiter]).isPrefixOf text.toList

/-- The suite that the second part of the text names. -/
def peek (text : String) : Except EnvelopeError Suite :=
  if isEnvelope text then
    match split text with
    | _ :: code :: _ => Suite.ofCode code
    | _ => .error (.malformed .sentinel)
  else .error (.malformed .sentinel)

/-- The parts of a text that has the sentinel and five fields more. -/
structure Fields where
  code : String
  nonce : String
  ciphertext : String
  tag : String
  mask : String
  deriving DecidableEq, Repr

def fields (text : String) : Except EnvelopeError Fields :=
  match split text with
  | [first, code, nonce, ciphertext, tag, mask] =>
    if first = sentinel then .ok { code, nonce, ciphertext, tag, mask }
    else .error (.malformed .fieldCount)
  | _ => .error (.malformed .fieldCount)

/-- The display mask, if the text has the right number of fields. -/
def displayMask (text : String) : Option String :=
  match fields text with
  | .ok f => some f.mask
  | .error _ => none

def decodeField (field : String) : Except EnvelopeError (List UInt8) :=
  match Base64Url.decode? field with
  | some bytes => .ok bytes
  | none => .error (.malformed .base64)

/-- The envelope that a text denotes. The suite is settled before any byte field is read. -/
def parse (text : String) : Except EnvelopeError Envelope := do
  let f ← fields text
  let suite ← Suite.ofCode f.code
  let nonce ← decodeField f.nonce
  if nonce.length ≠ suite.nonceLength then throw (.malformed .nonceLength)
  let ciphertext ← decodeField f.ciphertext
  let tag ← decodeField f.tag
  return { suite, nonce, ciphertext, tag }

end FieldSeal.Envelope

import FieldSeal.Key.Supply
import FieldSeal.Policy

/-!
# Settings

Settings are read from named values. Names count without regard to case, and a name that is not
known is passed over.

**Order of faults.** A listening number that cannot be read comes first, then the suite, a listening
number of zero, and the keys. What is accepted is decoded once and for all, so nothing that is built
from it can fail.

**Keys.** A key that is absent or blank is not set. If no key is set, keys are generated.
-/

namespace FieldSeal

structure Settings where
  /-- The code of the suite that protects new values, as it is given. -/
  activeMode : String
  suite : Suite
  /-- The number under which the server listens. -/
  listenOn : Nat
  logLevel : String
  /-- Where traces are sent, if they are. -/
  traceEndpoint? : Option String
  modernKey? : Option SecretKey
  gmKey? : Option SecretKey
  gmMac? : Option SecretKey

inductive SettingsError where
  /-- The listening number cannot be read. -/
  | listenUnreadable
  | activeMode (cause : EnvelopeError)
  | listenZero
  /-- The key in the variable of this name cannot be used. -/
  | key (name : String) (cause : EnvelopeError)
  deriving DecidableEq, Repr

def SettingsError.message : SettingsError → String
  | .listenUnreadable => "failed to deserialise configuration"
  | .activeMode cause => "ACTIVE_MODE is invalid: " ++ cause.message
  | .listenZero => "LISTEN_PORT must be > 0"
  | .key name cause => name ++ " is invalid: " ++ cause.message

namespace Settings

/-! ## Names and values -/

/-- The lowercase form of a letter that has one within ASCII: the letters of ASCII and the sign of
the kelvin. -/
def lowerChar (c : Char) : Char := if c = '\u212a' then 'k' else c.toLower

def lower (text : String) : String := String.ofList (text.toList.map lowerChar)

/-- The value of a name in lowercase letters; the last of several spellings counts. -/
def value? (environment : List (String × String)) (name : String) : Option String :=
  (environment.reverse.find? fun (n, _) => lower n == name).map (·.2)

/-- The digits of a number, behind a plus sign or not. -/
def number? (text : String) : Option Nat :=
  let digits := match text.toList with
    | '+' :: rest => rest
    | cs => cs
  if digits.isEmpty ∨ ¬digits.all Char.isDigit then none
  else some (digits.foldl (fun n c => 10 * n + (c.toNat - 48)) 0)

/-- A listening number has sixteen bits; the usual words for yes and no count as one and zero. -/
def listenNumber? (text : String) : Option Nat :=
  let word := lower text
  if word ∈ ["true", "on", "yes"] then some 1
  else if word ∈ ["false", "off", "no"] then some 0
  else (number? text).filter (· < 65536)

/-- The key in a variable, if it is set. -/
def key? (name : String) (kind : KeyKind) (value? : Option String) :
    Except SettingsError (Option SecretKey) :=
  let text := Unicode.trim (value?.getD "")
  if text.isEmpty then .ok none
  else
    match SecretKey.ofBase64 kind text with
    | .ok key => .ok (some key)
    | .error cause => .error (.key name cause)

/-- The settings that named values denote. -/
def read (environment : List (String × String)) : Except SettingsError Settings := do
  let value? := value? environment
  let activeMode := (value? "active_mode").getD Suite.modern.code
  let some listenOn := listenNumber? ((value? "listen_port").getD "8080")
    | throw .listenUnreadable
  let suite ← match Suite.ofCode (Unicode.trim activeMode) with
    | .ok suite => pure suite
    | .error cause => throw (.activeMode cause)
  if listenOn = 0 then throw .listenZero
  let modernKey? ← key? "MODERN_KEY" .modernEncryption (value? "modern_key")
  let gmKey? ← key? "GM_ENCRYPTION_KEY" .gmEncryption (value? "gm_encryption_key")
  let gmMac? ← key? "GM_MAC_KEY" .gmMac (value? "gm_mac_key")
  return {
    activeMode, suite, listenOn
    logLevel := (value? "log_level").getD "info"
    traceEndpoint? := value? "otel_exporter_otlp_endpoint"
    modernKey?, gmKey?, gmMac? }

/-! ## Keys -/

/-- No key is set. -/
def hasNoKeys (s : Settings) : Bool := s.modernKey?.isNone && s.gmKey?.isNone && s.gmMac?.isNone

/-- The keys that are set for a suite. -/
def pair (s : Settings) : Suite → KeyPair
  | .gm => { encryption := s.gmKey?, mac := s.gmMac? }
  | .modern => { encryption := s.modernKey? }

/-- The supply of the keys that are set, or of generated ones if none is. -/
def supply (s : Settings) (host : Host) : KeySupply × Host :=
  if s.hasNoKeys then (.fresh, host.report .noKeysSet)
  else (.fixed fun suite => .ok (s.pair suite), host)

end Settings

end FieldSeal

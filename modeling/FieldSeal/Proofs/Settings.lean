import FieldSeal.Proofs.Action
import FieldSeal.Proofs.Bytes.Base64Url
import FieldSeal.Proofs.Unicode.Blank
import FieldSeal.Settings

/-!
# Reading settings

**Keys.** There is one variable for each kind of keys. A value spells a key when it is the base64url of
its bytes, with any part of the padding, and blanks around it (`SecretKey.Written`). Settings that
were read have the key of a kind exactly if its variable spells one of the right length
(`keyFor_eq_some_iff`), and no key exactly if the variable is absent or blank
(`keyFor_eq_none_iff`). A value that is neither keeps the settings from being read
(`exists_error_of_bad_key`).
-/

namespace FieldSeal

open Unicode (Surrounds Trimmed isBlank isBlankText trim)

/-! ## Spelled keys -/

namespace Base64Url

theorem isBlank_symbol {n : Nat} (h : n < 64) : isBlank (symbol n) = false := by
  revert n
  decide

/-- A text that spells bytes has no blanks. -/
theorem Spells.not_isBlank {text : String} {bytes : List UInt8} (h : Spells text bytes) {c : Char}
    (hc : c ∈ text.toList) : isBlank c = false := by
  obtain ⟨k, -, htext⟩ := h
  rw [htext, List.mem_append] at hc
  rcases hc with hc | hc
  · obtain ⟨n, hn, rfl⟩ := List.mem_map.1 hc
    exact isBlank_symbol (sextets_lt bytes n hn)
  · rw [List.eq_of_mem_replicate hc]
    decide

theorem Spells.trimmed {text : String} {bytes : List UInt8} (h : Spells text bytes) :
    Trimmed text.toList := by
  refine ⟨fun c hc => ?_, fun c hc => ?_⟩
  · simp [h.not_isBlank (List.mem_of_mem_head? hc)]
  · simp [h.not_isBlank (List.mem_of_mem_getLast? hc)]

end Base64Url

namespace SecretKey

/-- The value is the base64url of the key, with any part of the padding and blanks around it. -/
def Written (value : String) (key : SecretKey) : Prop :=
  ∃ text, Surrounds value text ∧ Base64Url.Spells text key.bytes

variable {kind : KeyKind} {value : String} {key key' : SecretKey}

theorem written_iff : Written value key ↔ Base64Url.Spells (trim value) key.bytes := by
  refine ⟨?_, fun h => ⟨trim value, Unicode.surrounds_trim value, h⟩⟩
  rintro ⟨text, hvalue, htext⟩
  rwa [Unicode.trim_of_surrounds hvalue htext.trimmed]

theorem ofBytes_eq_ok_iff {bytes : List UInt8} :
    ofBytes kind bytes = .ok key ↔ bytes.length = kind.length ∧ key = ⟨bytes⟩ := by
  unfold ofBytes
  split
  · next h => simp [h, eq_comm]
  · next h => simp [h]

theorem ofBase64_eq_ok_iff :
    ofBase64 kind value = .ok key ↔ Written value key ∧ key.bytes.length = kind.length := by
  rw [written_iff, ← Base64Url.decode?_eq_some_iff, ofBase64]
  cases Base64Url.decode? (trim value) with
  | none => simp
  | some bytes =>
    rw [ofBytes_eq_ok_iff, Option.some.injEq]
    constructor
    · rintro ⟨hlength, rfl⟩
      exact ⟨rfl, hlength⟩
    · rintro ⟨rfl, hlength⟩
      exact ⟨hlength, rfl⟩

theorem ofBase64_trim (kind : KeyKind) (value : String) :
    ofBase64 kind (trim value) = ofBase64 kind value := by
  rw [ofBase64, ofBase64, Unicode.trim_trim]

/-- A value spells at most one key. -/
theorem Written.unique (h : Written value key) (h' : Written value key') : key = key' := by
  rw [written_iff] at h h'
  obtain ⟨bytes⟩ := key
  obtain ⟨bytes'⟩ := key'
  exact congrArg mk (h.unique h')

/-- Blanks spell no key that has bytes. -/
theorem Written.not_isBlankText (h : Written value key) (hkey : 0 < key.bytes.length) :
    ¬isBlankText value := by
  intro hblank
  rw [written_iff, Unicode.trim_eq_empty_iff.2 hblank] at h
  have hnil : key.bytes = [] := h.unique ⟨0, Nat.zero_le _, rfl⟩
  rw [hnil] at hkey
  exact Nat.lt_irrefl 0 hkey

end SecretKey

/-! ## Variables -/

/-- The variable that holds the keys of a kind. -/
def KeyKind.variable : KeyKind → String
  | .modernEncryption => "MODERN_KEY"
  | .gmEncryption => "GM_ENCRYPTION_KEY"
  | .gmMac => "GM_MAC_KEY"

namespace Settings

variable {environment : List (String × String)} {s : Settings} {kind : KeyKind} {value : String}
  {value? : Option String} {key : SecretKey}

/-- The value of the variable for keys of a kind. -/
def keyValue? (environment : List (String × String)) (kind : KeyKind) : Option String :=
  Settings.value? environment (lower kind.variable)

/-- There is a value, and it is not blank. -/
def isSet (value? : Option String) : Bool := value?.any fun value => !isBlankText value

/-- The key of a kind. -/
def keyFor (s : Settings) : KeyKind → Option SecretKey
  | .modernEncryption => s.modernKey?
  | .gmEncryption => s.gmKey?
  | .gmMac => s.gmMac?

theorem key?_of_not_isSet (h : isSet value? = false) (name : String) :
    key? name kind value? = .ok none := by
  have hempty : trim (value?.getD "") = "" := by
    cases value? with
    | none => rfl
    | some value =>
      rw [Option.getD_some, Unicode.trim_eq_empty_iff]
      simpa [isSet] using h
  rw [key?, hempty]
  rfl

theorem key?_of_isSet (h : ¬isBlankText value) (name : String) :
    key? name kind (some value) =
      match SecretKey.ofBase64 kind value with
      | .ok key => .ok (some key)
      | .error cause => .error (.key name cause) := by
  have hnonempty : ¬(trim value).isEmpty := by
    rwa [String.isEmpty_iff, Unicode.trim_eq_empty_iff]
  cases hkey : SecretKey.ofBase64 kind value with
  | ok key =>
    simp only [key?, Option.getD_some, SecretKey.ofBase64_trim, hkey]
    exact if_neg hnonempty
  | error cause =>
    simp only [key?, Option.getD_some, SecretKey.ofBase64_trim, hkey]
    exact if_neg hnonempty

theorem isSet_eq_true_iff : isSet value? ↔ ∃ value, value? = some value ∧ ¬isBlankText value := by
  cases value? <;> simp [isSet]

/-- A variable without a key. -/
theorem key?_eq_ok_none_iff {name : String} :
    key? name kind value? = .ok none ↔ isSet value? = false := by
  refine ⟨fun h => ?_, fun h => key?_of_not_isSet h name⟩
  rw [← Bool.not_eq_true, isSet_eq_true_iff]
  rintro ⟨value, rfl, hblank⟩
  rw [key?_of_isSet hblank] at h
  split at h <;> cases h

/-- A variable with a key. -/
theorem key?_eq_ok_some_iff {name : String} :
    key? name kind value? = .ok (some key) ↔
      key.bytes.length = kind.length ∧ ∃ value, value? = some value ∧ key.Written value := by
  constructor
  · intro h
    cases hset : isSet value? with
    | false =>
      rw [key?_of_not_isSet hset] at h
      cases h
    | true =>
      obtain ⟨value, rfl, hblank⟩ := isSet_eq_true_iff.1 hset
      rw [key?_of_isSet hblank] at h
      split at h
      · next found hfound =>
        cases h
        obtain ⟨hwritten, hlength⟩ := SecretKey.ofBase64_eq_ok_iff.1 hfound
        exact ⟨hlength, value, rfl, hwritten⟩
      · cases h
  · rintro ⟨hlength, value, rfl, hwritten⟩
    have hpositive : 0 < key.bytes.length := by
      rw [hlength]
      cases kind <;> decide
    rw [key?_of_isSet (hwritten.not_isBlankText hpositive),
      SecretKey.ofBase64_eq_ok_iff.2 ⟨hwritten, hlength⟩]

/-! ## Reading -/

/-- The key of a kind in an environment. -/
def keyIn (environment : List (String × String)) (kind : KeyKind) :
    Except SettingsError (Option SecretKey) :=
  key? kind.variable kind (keyValue? environment kind)

/-- Reading, step by step: the listening number, the suite, the number once more, and the keys. -/
theorem read_eq (environment : List (String × String)) :
    read environment =
      match listenNumber? ((Settings.value? environment "listen_port").getD "8080") with
      | none => .error .listenUnreadable
      | some listenOn =>
        match Suite.ofCode
            (trim ((Settings.value? environment "active_mode").getD Suite.modern.code)) with
        | .error cause => .error (.activeMode cause)
        | .ok suite =>
          if listenOn = 0 then .error .listenZero
          else
            keyIn environment .modernEncryption >>= fun modernKey? =>
            keyIn environment .gmEncryption >>= fun gmKey? =>
            keyIn environment .gmMac >>= fun gmMac? =>
            .ok {
              activeMode := (Settings.value? environment "active_mode").getD Suite.modern.code
              suite, listenOn
              logLevel := (Settings.value? environment "log_level").getD "info"
              traceEndpoint? := Settings.value? environment "otel_exporter_otlp_endpoint"
              modernKey?, gmKey?, gmMac? } := by
  have hmodern : lower "MODERN_KEY" = "modern_key" := by decide
  have hgm : lower "GM_ENCRYPTION_KEY" = "gm_encryption_key" := by decide
  have hmac : lower "GM_MAC_KEY" = "gm_mac_key" := by decide
  simp only [read, keyIn, keyValue?, KeyKind.variable, hmodern, hgm, hmac]
  cases listenNumber? ((Settings.value? environment "listen_port").getD "8080") with
  | none => rfl
  | some listenOn =>
    simp only
    cases Suite.ofCode
      (trim ((Settings.value? environment "active_mode").getD Suite.modern.code)) with
    | error cause => rfl
    | ok suite =>
      simp only [pure_bind]
      split <;> rfl

/-- What settings are read from. -/
theorem of_read (h : read environment = .ok s) :
    Suite.ofCode (trim s.activeMode) = .ok s.suite ∧
      ∀ kind, keyIn environment kind = .ok (s.keyFor kind) := by
  rw [read_eq] at h
  split at h
  · cases h
  · split at h
    · cases h
    · next suite hsuite =>
      split at h
      · cases h
      · obtain ⟨modernKey?, hmodern, h⟩ := except_bind_eq_ok_iff.1 h
        obtain ⟨gmKey?, hgm, h⟩ := except_bind_eq_ok_iff.1 h
        obtain ⟨gmMac?, hmac, h⟩ := except_bind_eq_ok_iff.1 h
        cases h
        refine ⟨hsuite, fun kind => ?_⟩
        cases kind with
        | modernEncryption => exact hmodern
        | gmEncryption => exact hgm
        | gmMac => exact hmac

/-! ## The keys of settings -/

theorem keyFor_eq_some_iff (h : read environment = .ok s) :
    s.keyFor kind = some key ↔
      key.bytes.length = kind.length ∧
        ∃ value, keyValue? environment kind = some value ∧ key.Written value := by
  rw [← key?_eq_ok_some_iff, ← keyIn, (of_read h).2 kind, Except.ok.injEq]

theorem keyFor_eq_none_iff (h : read environment = .ok s) :
    s.keyFor kind = none ↔ isSet (keyValue? environment kind) = false := by
  rw [← key?_eq_ok_none_iff, ← keyIn, (of_read h).2 kind, Except.ok.injEq]

theorem hasNoKeys_iff (h : read environment = .ok s) :
    s.hasNoKeys ↔ ∀ kind, isSet (keyValue? environment kind) = false := by
  simp only [← keyFor_eq_none_iff h]
  constructor
  · intro hnone kind
    simp only [hasNoKeys, Bool.and_eq_true, Option.isNone_iff_eq_none] at hnone
    obtain ⟨⟨hmodern, hgm⟩, hmac⟩ := hnone
    cases kind with
    | modernEncryption => exact hmodern
    | gmEncryption => exact hgm
    | gmMac => exact hmac
  · intro hnone
    have hmodern : s.modernKey? = none := hnone .modernEncryption
    have hgm : s.gmKey? = none := hnone .gmEncryption
    have hmac : s.gmMac? = none := hnone .gmMac
    simp [hasNoKeys, hmodern, hgm, hmac]

theorem slot_pair (s : Settings) (kind : KeyKind) :
    (s.pair kind.suite).slot kind = s.keyFor kind := by
  cases kind <;> rfl

/-- A value that is set and spells no key of its kind keeps the settings from being read. -/
theorem exists_error_of_bad_key (hvalue : keyValue? environment kind = some value)
    (hset : ¬isBlankText value)
    (hbad : ∀ key : SecretKey, key.bytes.length = kind.length → ¬key.Written value) :
    ∃ fault, read environment = .error fault := by
  cases hread : read environment with
  | error fault => exact ⟨fault, rfl⟩
  | ok s =>
    cases hkey : s.keyFor kind with
    | none =>
      rw [keyFor_eq_none_iff hread, ← Bool.not_eq_true, isSet_eq_true_iff] at hkey
      exact absurd ⟨value, hvalue, hset⟩ hkey
    | some key =>
      obtain ⟨hlength, other, hother, hwritten⟩ := (keyFor_eq_some_iff hread).1 hkey
      cases hvalue.symm.trans hother
      exact absurd hwritten (hbad key hlength)

end Settings

end FieldSeal

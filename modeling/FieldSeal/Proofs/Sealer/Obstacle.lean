import FieldSeal.Proofs.Cipher.StartValue
import FieldSeal.Proofs.Sealer.Inverse

/-!
# Why an envelope is not opened

**Theorem (`refused_for_first_obstacle`).** A sealer opens an envelope unless an obstacle stands in
the way, and then reports the first one in a fixed order: the form of the envelope, the keys in the
order in which the suite asks for them, authentication, decryption. Nothing is decrypted unless
authentication succeeds, so what a failed authentication reports does not depend on anything that
only decryption reads.

**Obstacles.** An `Obstacle` is a condition and the error that reports it. `Stops` picks the error of
the first condition on a list that holds. An outcome `Meets` a list when it fails exactly with the
error that `Stops` picks. Outcomes of steps that follow one another meet the joined lists
(`Meets.bind`), so each step of opening is treated once and on its own.
-/

namespace FieldSeal.Sealer

/-! ## Obstacles -/

/-- A condition under which an envelope is not opened, and the error that reports it. -/
structure Obstacle where
  present : Prop
  error : EnvelopeError

/-- The first obstacle on the list that is present has this error. -/
inductive Stops : List Obstacle → EnvelopeError → Prop
  | here {o : Obstacle} {rest : List Obstacle} (h : o.present) : Stops (o :: rest) o.error
  | later {o : Obstacle} {rest : List Obstacle} {error : EnvelopeError} (h : ¬o.present)
    (hrest : Stops rest error) : Stops (o :: rest) error

/-- The outcome is the error of the first obstacle that is present, and a value without one. -/
def Meets {α : Type} (os : List Obstacle) (outcome : Except EnvelopeError α) : Prop :=
  ∀ error, outcome = .error error ↔ Stops os error

section Obstacles

variable {α β : Type} {os os' : List Obstacle} {o : Obstacle} {error error' : EnvelopeError}

theorem stops_cons_of_present (h : o.present) : Stops (o :: os) error ↔ error = o.error := by
  constructor
  · intro hstops
    cases hstops with
    | here _ => rfl
    | later ho _ => exact absurd h ho
  · rintro rfl
    exact .here h

theorem stops_cons_of_absent (h : ¬o.present) : Stops (o :: os) error ↔ Stops os error := by
  constructor
  · intro hstops
    cases hstops with
    | here ho => exact absurd ho h
    | later _ hrest => exact hrest
  · exact .later h

theorem stops_append_of_clear (h : ∀ o ∈ os, ¬o.present) :
    Stops (os ++ os') error ↔ Stops os' error := by
  induction os with
  | nil => rfl
  | cons o os ih =>
    rw [List.cons_append, stops_cons_of_absent (h o List.mem_cons_self)]
    exact ih fun o' ho' => h o' (List.mem_cons_of_mem o ho')

/-- An error that none of the first obstacles has comes from behind them. -/
theorem Stops.of_append (h : Stops (os ++ os') error) (hne : ∀ o ∈ os, o.error ≠ error) :
    Stops os' error := by
  induction os with
  | nil => exact h
  | cons o os ih =>
    have hrest : ∀ o' ∈ os, o'.error ≠ error := fun o' ho' => hne o' (List.mem_cons_of_mem o ho')
    by_cases ho : o.present
    · rw [List.cons_append, stops_cons_of_present ho] at h
      exact absurd h.symm (hne o List.mem_cons_self)
    · rw [List.cons_append, stops_cons_of_absent ho] at h
      exact ih h hrest

/-- A list that stops is not changed by what is appended to it. -/
theorem Stops.append_iff (h : Stops os error) :
    Stops (os ++ os') error' ↔ error' = error := by
  induction h with
  | here ho => rw [List.cons_append, stops_cons_of_present ho]
  | later ho _ ih => rw [List.cons_append, stops_cons_of_absent ho, ih]

theorem Stops.exists_mem (h : Stops os error) : ∃ o ∈ os, o.present ∧ o.error = error := by
  induction h with
  | here ho => exact ⟨_, List.mem_cons_self, ho, rfl⟩
  | later _ _ ih =>
    obtain ⟨o, ho, h⟩ := ih
    exact ⟨o, List.mem_cons_of_mem _ ho, h⟩

theorem exists_stops_iff : (∃ error, Stops os error) ↔ ∃ o ∈ os, o.present := by
  induction os with
  | nil =>
    constructor
    · rintro ⟨error, h⟩
      cases h
    · rintro ⟨o, ho, -⟩
      cases ho
  | cons o os ih =>
    by_cases ho : o.present
    · simp only [stops_cons_of_present ho, exists_eq, true_iff]
      exact ⟨o, List.mem_cons_self, ho⟩
    · simp only [stops_cons_of_absent ho, ih, List.mem_cons, exists_eq_or_imp, ho, false_or]

namespace Meets

/-- There is a value if and only if no obstacle is present. -/
theorem exists_ok_iff {outcome : Except EnvelopeError α} (h : Meets os outcome) :
    (∃ x, outcome = .ok x) ↔ ∀ o ∈ os, ¬o.present := by
  have herror : (∃ error, outcome = .error error) ↔ ∃ o ∈ os, o.present := by
    rw [← exists_stops_iff]
    exact exists_congr h
  have hnone : (∀ o ∈ os, ¬o.present) ↔ ¬∃ error, outcome = .error error := by
    rw [herror]
    simp only [not_exists, not_and]
  rw [hnone]
  cases outcome with
  | error e => simp
  | ok x => simp

theorem ok (x : α) : Meets [] (.ok x) := by
  intro error
  constructor
  · intro h
    cases h
  · intro h
    cases h

/-- A step with one obstacle. -/
theorem singleton {outcome : Except EnvelopeError α} (hok : ∀ x, outcome = .ok x → ¬o.present)
    (herror : ∀ error, outcome = .error error → o.present ∧ error = o.error) :
    Meets [o] outcome := by
  intro error
  cases outcome with
  | ok x =>
    rw [stops_cons_of_absent (hok x rfl)]
    exact ok x error
  | error e =>
    obtain ⟨hpresent, rfl⟩ := herror e rfl
    rw [stops_cons_of_present hpresent, Except.error.injEq, eq_comm]

/-- The second step runs only if no obstacle of the first is present. -/
theorem bind {a : Except EnvelopeError α} {f : α → Except EnvelopeError β} (ha : Meets os a)
    (hf : ∀ x, a = .ok x → Meets os' (f x)) : Meets (os ++ os') (a >>= f) := by
  intro error
  cases a with
  | error e =>
    rw [((ha e).1 rfl).append_iff]
    constructor
    · intro h
      cases h
      rfl
    · rintro rfl
      rfl
  | ok x =>
    rw [stops_append_of_clear (ha.exists_ok_iff.1 ⟨x, rfl⟩)]
    exact hf x rfl error

/-- A check in front of the other steps. -/
theorem guarded {p : Prop} [Decidable p] {outcome : Except EnvelopeError α} (hp : p ↔ o.present)
    (h : ¬p → Meets os outcome) :
    Meets (o :: os) (if p then .error o.error else outcome) := by
  intro error
  by_cases hpresent : p
  · rw [if_pos hpresent, stops_cons_of_present (hp.1 hpresent), Except.error.injEq, eq_comm]
  · rw [if_neg hpresent, stops_cons_of_absent (fun ho => hpresent (hp.2 ho))]
    exact h hpresent error

/-- Conditions may be replaced by equivalent ones. -/
theorem congr {p q : Prop} {outcome : Except EnvelopeError α} (hpq : p ↔ q)
    (h : Meets [⟨p, error⟩] outcome) : Meets [⟨q, error⟩] outcome := by
  rwa [propext hpq] at h

end Meets

end Obstacles

/-! ## The obstacles to opening -/

/-- The envelope is of another suite, or has no nonce of its suite. -/
def formObstacles (suite : Suite) (e : Envelope) : List Obstacle :=
  [⟨e.suite ≠ suite, .malformed .otherSuite⟩,
    ⟨e.nonce.length ≠ suite.nonceLength, .malformed .nonceLength⟩]

/-- The slot of the key is empty, or holds a key of another length. -/
def keyObstacles (suite : Suite) (pair : KeyPair) (kind : KeyKind) : List Obstacle :=
  [⟨pair.slot kind = none, .missingKey suite kind⟩,
    ⟨∃ key, pair.slot kind = some key ∧ key.bytes.length ≠ kind.length, .keyLength kind⟩]

/-- The bytes of the envelope pass authentication: for GM the tag is that of the ciphertext, for
MODERN ciphertext and tag together are what the cipher makes of some bytes under the nonce. -/
def Authentic : Suite → KeyPair → Envelope → Prop
  | .gm, pair, e => ∃ mac, pair.mac = some mac ∧ Hmac.tag mac.bytes e.ciphertext = e.tag
  | .modern, pair, e => ∃ key bytes ciphertext tag, pair.encryption = some key ∧
    ChaChaPoly.encrypt? key.bytes e.nonce bytes = some (ciphertext, tag) ∧
    e.ciphertext ++ e.tag = ciphertext ++ tag

/-- The ciphertext of the envelope is an encryption of the text under the nonce. -/
def Hides : Suite → KeyPair → Envelope → String → Prop
  | .gm, pair, e, text => ∃ key, pair.encryption = some key ∧
    Cbc.encrypt? key.bytes e.nonce (Utf8.encode text) = some e.ciphertext
  | .modern, pair, e, text => ∃ key ciphertext tag, pair.encryption = some key ∧
    ChaChaPoly.encrypt? key.bytes e.nonce (Utf8.encode text) = some (ciphertext, tag) ∧
    e.ciphertext ++ e.tag = ciphertext ++ tag

/-- What is settled before authentication. -/
def preliminaries (suite : Suite) (pair : KeyPair) (e : Envelope) : List Obstacle :=
  formObstacles suite e ++ (KeyKind.requiredBy suite).flatMap (keyObstacles suite pair)

/-- Authentication, and then decryption. -/
def cipherObstacles (suite : Suite) (pair : KeyPair) (e : Envelope) : List Obstacle :=
  [⟨¬Authentic suite pair e, .tampered suite⟩, ⟨∀ text, ¬Hides suite pair e text, .cipher suite⟩]

/-- All obstacles, in the order in which they count. -/
def obstacles (suite : Suite) (pair : KeyPair) (e : Envelope) : List Obstacle :=
  preliminaries suite pair e ++ cipherObstacles suite pair e

variable {suite : Suite} {pair : KeyPair} {e : Envelope} {key mac : SecretKey} {text : String}

theorem meets_check (suite : Suite) (e : Envelope) :
    Meets (formObstacles suite e) (check suite e) := by
  unfold check
  refine Meets.guarded (o := ⟨_, .malformed .otherSuite⟩) Iff.rfl fun _ => ?_
  exact Meets.guarded (o := ⟨_, .malformed .nonceLength⟩) Iff.rfl fun _ => Meets.ok ()

theorem meets_require (suite : Suite) (pair : KeyPair) (kind : KeyKind) :
    Meets (keyObstacles suite pair kind) (pair.require suite kind) := by
  intro error
  unfold KeyPair.require keyObstacles
  cases hslot : pair.slot kind with
  | none =>
    rw [stops_cons_of_present (o := ⟨none = none, _⟩) rfl, Except.error.injEq, eq_comm]
  | some key =>
    have hsome : ¬some key = none := fun h => by cases h
    rw [stops_cons_of_absent hsome]
    by_cases hlen : key.bytes.length = kind.length
    · have hnone : ¬∃ k, some key = some k ∧ k.bytes.length ≠ kind.length := by
        rintro ⟨_, ⟨rfl⟩, h⟩
        exact h hlen
      rw [stops_cons_of_absent hnone]
      simp only [if_pos hlen]
      exact Meets.ok key error
    · have hother : ∃ k, some key = some k ∧ k.bytes.length ≠ kind.length := ⟨key, rfl, hlen⟩
      rw [stops_cons_of_present hother]
      simp only [if_neg hlen, Except.error.injEq, eq_comm]

theorem meets_textOf (suite : Suite) (bytes : Option (List UInt8)) :
    Meets [⟨∀ text, bytes ≠ some (Utf8.encode text), .cipher suite⟩] (textOf suite bytes) := by
  intro error
  cases h : textOf suite bytes with
  | ok text =>
    have habsent : ¬∀ text, bytes ≠ some (Utf8.encode text) :=
      fun hall => hall text (textOf_eq_ok_iff.1 h)
    rw [stops_cons_of_absent habsent]
    exact Meets.ok text error
  | error e =>
    have hall : ∀ text, bytes ≠ some (Utf8.encode text) := by
      intro text htext
      rw [textOf_eq_ok_iff.2 htext] at h
      cases h
    have he : e = .cipher suite := by
      unfold textOf at h
      split at h <;> cases h
      rfl
    rw [stops_cons_of_present hall, he, Except.error.injEq, eq_comm]

/-! ## The GM suite -/

namespace Gm

theorem meets_keys (pair : KeyPair) :
    Meets ((KeyKind.requiredBy .gm).flatMap (keyObstacles .gm pair)) (keys pair) := by
  refine (meets_require .gm pair .gmEncryption).bind fun key _ => ?_
  exact (meets_require .gm pair .gmMac).bind fun mac _ => Meets.ok (key, mac)

/-- Opening, step by step: the form, the keys, the tag, the ciphertext. -/
theorem decrypt_eq_bind (pair : KeyPair) (e : Envelope) :
    decrypt pair e = check .gm e >>= fun _ => keys pair >>= fun found =>
      if Hmac.tag found.2.bytes e.ciphertext ≠ e.tag then .error (.tampered .gm)
      else textOf .gm (Cbc.decrypt? found.1.bytes e.nonce e.ciphertext) := rfl

theorem decrypt_of_form (hsuite : e.suite = .gm) (hlen : e.nonce.length = Suite.gm.nonceLength)
    (hkeys : keys pair = .ok (key, mac)) :
    decrypt pair e = if Hmac.tag mac.bytes e.ciphertext ≠ e.tag then .error (.tampered .gm)
      else textOf .gm (Cbc.decrypt? key.bytes e.nonce e.ciphertext) := by
  rw [decrypt_eq_bind, check_eq_ok_iff.2 ⟨hsuite, hlen⟩, hkeys]
  rfl

theorem meets_cipher (hkeys : keys pair = .ok (key, mac)) :
    Meets (cipherObstacles .gm pair e)
      (if Hmac.tag mac.bytes e.ciphertext ≠ e.tag then .error (.tampered .gm)
      else textOf .gm (Cbc.decrypt? key.bytes e.nonce e.ciphertext)) := by
  have hkey := (KeyPair.require_eq_ok_iff.1 (keys_eq_ok_iff.1 hkeys).1).1
  have hmac := (KeyPair.require_eq_ok_iff.1 (keys_eq_ok_iff.1 hkeys).2).1
  have hauthentic : Hmac.tag mac.bytes e.ciphertext ≠ e.tag ↔ ¬Authentic .gm pair e := by
    refine not_congr ⟨fun h => ⟨mac, hmac, h⟩, ?_⟩
    rintro ⟨_, h, htag⟩
    cases hmac.symm.trans h
    exact htag
  have hhides : (∀ text, Cbc.decrypt? key.bytes e.nonce e.ciphertext ≠ some (Utf8.encode text)) ↔
      ∀ text, ¬Hides .gm pair e text := by
    refine forall_congr' fun text => not_congr ?_
    rw [Cbc.decrypt?_eq_some_iff]
    refine ⟨fun h => ⟨key, hkey, h⟩, ?_⟩
    rintro ⟨_, h, htext⟩
    cases hkey.symm.trans h
    exact htext
  refine Meets.guarded (o := ⟨_, .tampered .gm⟩) hauthentic fun _ => ?_
  exact (meets_textOf .gm _).congr hhides

theorem meets_decrypt (pair : KeyPair) (e : Envelope) :
    Meets (obstacles .gm pair e) (decrypt pair e) := by
  unfold obstacles preliminaries
  rw [List.append_assoc, decrypt_eq_bind]
  refine (meets_check .gm e).bind fun _ _ => ?_
  exact (meets_keys pair).bind fun found hkeys => meets_cipher hkeys

/-- Without the tag of the ciphertext, neither the encryption key nor the nonce has a say in what
is reported. -/
theorem decrypt_of_not_tag (hsuite : e.suite = .gm) (hnonce : e.nonce.length = Suite.gm.nonceLength)
    (hkey : pair.require .gm .gmEncryption = .ok key)
    (htag : ∀ mac, pair.mac = some mac → Hmac.tag mac.bytes e.ciphertext ≠ e.tag) :
    decrypt pair e = pair.require .gm .gmMac >>= fun _ => .error (.tampered .gm) := by
  rw [decrypt_eq_bind, check_eq_ok_iff.2 ⟨hsuite, hnonce⟩]
  cases hmac : pair.require .gm .gmMac with
  | error cause =>
    have hkeys : keys pair = .error cause := by
      unfold keys
      rw [hkey, hmac]
      rfl
    rw [hkeys]
    rfl
  | ok mac =>
    have hne := htag mac (KeyPair.require_eq_ok_iff.1 hmac).1
    rw [keys_eq_ok_iff.2 ⟨hkey, hmac⟩]
    exact if_pos hne

/-- Runs that differ in the encryption key and the nonce alone report the same, unless the tag is
that of the ciphertext. -/
theorem decrypt_congr_of_not_tag {mac? : Option SecretKey} {key key' : SecretKey}
    {nonce nonce' : List UInt8} (hkey : key.bytes.length = KeyKind.gmEncryption.length)
    (hkey' : key'.bytes.length = KeyKind.gmEncryption.length)
    (hnonce : nonce.length = Suite.gm.nonceLength) (hnonce' : nonce'.length = Suite.gm.nonceLength)
    (htag : ∀ mac, mac? = some mac → Hmac.tag mac.bytes e.ciphertext ≠ e.tag) :
    decrypt ⟨some key, mac?⟩ { e with nonce } =
      decrypt ⟨some key', mac?⟩ { e with nonce := nonce' } := by
  by_cases hsuite : e.suite = .gm
  · rw [decrypt_of_not_tag (e := { e with nonce }) hsuite hnonce
        (KeyPair.require_eq_ok_iff.2 ⟨rfl, hkey⟩) htag,
      decrypt_of_not_tag (e := { e with nonce := nonce' }) hsuite hnonce'
        (KeyPair.require_eq_ok_iff.2 ⟨rfl, hkey'⟩) htag]
    rfl
  · have hother : ∀ nonce, check .gm { e with nonce } = .error (.malformed .otherSuite) :=
      fun nonce => if_pos hsuite
    rw [decrypt_eq_bind, decrypt_eq_bind, hother, hother]
    rfl

/-- A sealed envelope with another tag fails authentication. -/
theorem decrypt_of_other_tag {entropy after : Entropy}
    (h : encrypt pair text entropy = (.ok e, after)) {tag : List UInt8} (htag : tag ≠ e.tag) :
    decrypt pair { e with tag } = .error (.tampered .gm) := by
  obtain ⟨-, hsuite, hnonce, key, mac, hkeys, -, hmac⟩ := encrypt_eq_ok_iff.1 h
  have hlen : e.nonce.length = Suite.gm.nonceLength := by rw [hnonce, Entropy.length_draw]
  have hne : Hmac.tag mac.bytes e.ciphertext ≠ tag := fun h => htag (h.symm.trans hmac)
  rw [decrypt_of_form (e := { e with tag }) hsuite hlen hkeys]
  exact if_pos hne

/-- A sealed envelope with another nonce passes authentication. It gives no text, or one that
agrees with what was sealed behind its first block. -/
theorem decrypt_of_other_nonce {entropy after : Entropy}
    (h : encrypt pair text entropy = (.ok e, after)) {nonce : List UInt8}
    (hlen : nonce.length = Suite.gm.nonceLength) :
    decrypt pair { e with nonce } = .error (.cipher .gm) ∨
      ∃ other, decrypt pair { e with nonce } = .ok other ∧
        (Utf8.encode other).drop 16 = (Utf8.encode text).drop 16 ∧
        (16 ≤ (Utf8.encode text).length → (Utf8.encode other).take 16 =
          xorBytes (xorBytes ((Utf8.encode text).take 16) e.nonce) nonce) := by
  obtain ⟨-, hsuite, hnonce, key, mac, hkeys, hc, hmac⟩ := encrypt_eq_ok_iff.1 h
  have hstart : e.nonce.length = 16 := by rw [hnonce, Entropy.length_draw]; rfl
  have hopen : decrypt pair { e with nonce } =
      textOf .gm (Cbc.decrypt? key.bytes nonce e.ciphertext) := by
    rw [decrypt_of_form (e := { e with nonce }) hsuite hlen hkeys]
    exact if_neg (not_not_intro hmac)
  rw [hopen]
  cases htext : textOf .gm (Cbc.decrypt? key.bytes nonce e.ciphertext) with
  | error error =>
    left
    obtain ⟨o, ho, -, rfl⟩ := ((meets_textOf .gm _ error).1 htext).exists_mem
    cases ho with
    | head => rfl
    | tail _ ho => cases ho
  | ok other =>
    right
    exact ⟨other, rfl, Cbc.eq_of_decrypt?_of_other_start hc hstart hlen (textOf_eq_ok_iff.1 htext)⟩

end Gm

/-! ## The MODERN suite -/

namespace Modern

/-- Opening, step by step: the form, the key, the sealed bytes, the text. -/
theorem decrypt_eq_bind (pair : KeyPair) (e : Envelope) :
    decrypt pair e = check .modern e >>= fun _ =>
      pair.require .modern .modernEncryption >>= fun key =>
        if ChaChaPoly.decrypt? key.bytes e.nonce (e.ciphertext ++ e.tag) = none then
          .error (.tampered .modern)
        else
          textOf .modern (ChaChaPoly.decrypt? key.bytes e.nonce (e.ciphertext ++ e.tag)) := by
  unfold decrypt
  refine bind_congr fun _ => bind_congr fun key => ?_
  split
  · next h =>
    rw [if_pos h]
    rfl
  · next bytes h =>
    have hsome : ¬ChaChaPoly.decrypt? key.bytes e.nonce (e.ciphertext ++ e.tag) = none := by
      rw [h]
      exact Option.some_ne_none bytes
    rw [if_neg hsome, h]

theorem authentic_iff (hkey : pair.encryption = some key) :
    Authentic .modern pair e ↔
      ∃ bytes, ChaChaPoly.decrypt? key.bytes e.nonce (e.ciphertext ++ e.tag) = some bytes := by
  simp only [ChaChaPoly.decrypt?_eq_some_iff]
  constructor
  · rintro ⟨_, bytes, ciphertext, tag, h, hsealed, hjoin⟩
    cases hkey.symm.trans h
    exact ⟨bytes, ciphertext, tag, hsealed, hjoin⟩
  · rintro ⟨bytes, ciphertext, tag, hsealed, hjoin⟩
    exact ⟨key, bytes, ciphertext, tag, hkey, hsealed, hjoin⟩

theorem hides_iff (hkey : pair.encryption = some key) :
    Hides .modern pair e text ↔
      ChaChaPoly.decrypt? key.bytes e.nonce (e.ciphertext ++ e.tag) =
        some (Utf8.encode text) := by
  rw [ChaChaPoly.decrypt?_eq_some_iff]
  constructor
  · rintro ⟨_, ciphertext, tag, h, hsealed, hjoin⟩
    cases hkey.symm.trans h
    exact ⟨ciphertext, tag, hsealed, hjoin⟩
  · rintro ⟨ciphertext, tag, hsealed, hjoin⟩
    exact ⟨key, ciphertext, tag, hkey, hsealed, hjoin⟩

theorem meets_decrypt (pair : KeyPair) (e : Envelope) :
    Meets (obstacles .modern pair e) (decrypt pair e) := by
  unfold obstacles preliminaries
  rw [List.append_assoc, decrypt_eq_bind]
  refine (meets_check .modern e).bind fun _ _ => ?_
  refine (meets_require .modern pair .modernEncryption).bind fun key hkey => ?_
  have hslot := (KeyPair.require_eq_ok_iff.1 hkey).1
  have hauthentic : ChaChaPoly.decrypt? key.bytes e.nonce (e.ciphertext ++ e.tag) = none ↔
      ¬Authentic .modern pair e := by
    rw [authentic_iff hslot, ← Option.isSome_iff_exists, Option.not_isSome_iff_eq_none]
  have hhides : (∀ text, ChaChaPoly.decrypt? key.bytes e.nonce (e.ciphertext ++ e.tag) ≠
      some (Utf8.encode text)) ↔ ∀ text, ¬Hides .modern pair e text :=
    forall_congr' fun text => not_congr (hides_iff hslot).symm
  refine Meets.guarded (o := ⟨_, .tampered .modern⟩) hauthentic fun _ => ?_
  exact (meets_textOf .modern _).congr hhides

/-- A sealed envelope with another tag of the same length fails authentication. -/
theorem decrypt_of_other_tag {entropy after : Entropy}
    (h : encrypt pair text entropy = (.ok e, after)) {tag : List UInt8}
    (hlen : tag.length = e.tag.length) (htag : tag ≠ e.tag) :
    decrypt pair { e with tag } = .error (.tampered .modern) := by
  obtain ⟨-, hsuite, hnonce, key, hkey, hsealed⟩ := encrypt_eq_ok_iff.1 h
  have hnoncelen : e.nonce.length = Suite.modern.nonceLength := by rw [hnonce, Entropy.length_draw]
  obtain ⟨-, -, hmark⟩ := ChaChaPoly.encrypt?_eq_some_iff.1 hsealed
  have hnone : ChaChaPoly.decrypt? key.bytes e.nonce (e.ciphertext ++ tag) = none := by
    rw [Option.eq_none_iff_forall_ne_some]
    intro bytes hbytes
    obtain ⟨ciphertext, hlimit, hjoin, -⟩ := ChaChaPoly.eq_append_tag_of_decrypt? hbytes
    -- Both tags have sixteen bytes, so the joined bytes are cut at the same place.
    have hcut : tag.length = (ChaChaPoly.tag key.bytes e.nonce ciphertext).length := by
      rw [hlen, ← hmark, ChaChaPoly.length_tag, ChaChaPoly.length_tag]
    obtain ⟨rfl, rfl⟩ := List.append_inj' hjoin hcut
    exact htag hmark
  have hcheck : check .modern { e with tag } = .ok () := check_eq_ok_iff.2 ⟨hsuite, hnoncelen⟩
  rw [decrypt_eq_bind, hcheck, hkey]
  exact if_pos hnone

/-- The slot for a key of the authenticator is not looked at. -/
theorem decrypt_of_mac (encryption : Option SecretKey) (mac? mac?' : Option SecretKey)
    (e : Envelope) : decrypt ⟨encryption, mac?⟩ e = decrypt ⟨encryption, mac?'⟩ e := rfl

/-- Fewer bytes than a tag has are authentic under no key. -/
theorem not_authentic_of_short (h : (e.ciphertext ++ e.tag).length < 16) :
    ¬Authentic .modern pair e := by
  rintro ⟨key, bytes, ciphertext, tag, -, hsealed, hjoin⟩
  obtain ⟨-, -, rfl⟩ := ChaChaPoly.encrypt?_eq_some_iff.1 hsealed
  rw [hjoin, List.length_append, ChaChaPoly.length_tag] at h
  omega

end Modern

/-! ## Both suites -/

theorem meets_decrypt (suite : Suite) (pair : KeyPair) (e : Envelope) :
    Meets (obstacles suite pair e) ((builtIn suite).decrypt pair e) := by
  cases suite with
  | gm => exact Gm.meets_decrypt pair e
  | modern => exact Modern.meets_decrypt pair e

theorem error_of_mem_preliminaries {o : Obstacle} (h : o ∈ preliminaries suite pair e) :
    o.error ≠ .tampered suite ∧ o.error ≠ .cipher suite := by
  rcases List.mem_append.1 h with h | h
  · simp only [formObstacles, List.mem_cons, List.not_mem_nil, or_false] at h
    rcases h with rfl | rfl <;> exact ⟨nofun, nofun⟩
  · obtain ⟨kind, -, h⟩ := List.mem_flatMap.1 h
    simp only [keyObstacles, List.mem_cons, List.not_mem_nil, or_false] at h
    rcases h with rfl | rfl <;> exact ⟨nofun, nofun⟩

/-- Tampering is reported of nothing that is authentic. -/
theorem not_authentic_of_tampered
    (h : (builtIn suite).decrypt pair e = .error (.tampered suite)) : ¬Authentic suite pair e := by
  have hstops := ((meets_decrypt suite pair e _).1 h).of_append
    fun o ho => (error_of_mem_preliminaries ho).1
  unfold cipherObstacles at hstops
  cases hstops with
  | here h => exact h
  | later _ hrest =>
    obtain ⟨o, ho, -, herror⟩ := hrest.exists_mem
    cases List.mem_singleton.1 ho
    cases herror

/-- Decryption does not fail unless authentication succeeds. -/
theorem authentic_of_cipher
    (h : (builtIn suite).decrypt pair e = .error (.cipher suite)) : Authentic suite pair e := by
  have hstops := ((meets_decrypt suite pair e _).1 h).of_append
    fun o ho => (error_of_mem_preliminaries ho).2
  cases hstops with
  | later h _ => exact Classical.not_not.1 h

/-- Behind the preliminaries, authentication alone decides whether tampering is reported. -/
theorem decrypt_eq_tampered_iff (h : ∀ o ∈ preliminaries suite pair e, ¬o.present) :
    (builtIn suite).decrypt pair e = .error (.tampered suite) ↔ ¬Authentic suite pair e := by
  refine ⟨not_authentic_of_tampered, fun hnot => ?_⟩
  rw [meets_decrypt suite pair e, obstacles, stops_append_of_clear h]
  exact .here hnot

/-- **What stands first in the way is what is reported.** The order is: the form of the envelope,
the keys, authentication, decryption.

- Opening fails with an error exactly if it is the error of the first obstacle that is present, and
  gives a text exactly if no obstacle is.
- Behind the preliminaries tampering is reported if and only if authentication fails. A failure of
  the cipher is reported only of what is authentic.
- MODERN does not look at the slot for a key of the authenticator, and nothing shorter than a tag
  is authentic.
- As long as a GM tag is not that of the ciphertext, all encryption keys and all nonces of the right
  lengths report the same. With the tag of the ciphertext, tampering is reported under none.
- A sealed envelope with another tag, for MODERN of the same length, is reported as tampered. A
  sealed GM envelope with another nonce is not: it gives no text, or one that is changed in its
  first block only, by the difference of the nonces. -/
theorem refused_for_first_obstacle (suite : Suite) (pair : KeyPair) (e : Envelope) :
    (∀ error, (builtIn suite).decrypt pair e = .error error ↔
      Stops (obstacles suite pair e) error) ∧
    ((∃ text, (builtIn suite).decrypt pair e = .ok text) ↔
      ∀ o ∈ obstacles suite pair e, ¬o.present) ∧
    ((∀ o ∈ preliminaries suite pair e, ¬o.present) →
      ((builtIn suite).decrypt pair e = .error (.tampered suite) ↔ ¬Authentic suite pair e)) ∧
    ((builtIn suite).decrypt pair e = .error (.cipher suite) → Authentic suite pair e) ∧
    (∀ mac? : Option SecretKey, modern.decrypt { pair with mac := mac? } e =
      modern.decrypt pair e) ∧
    ((e.ciphertext ++ e.tag).length < 16 → ¬Authentic .modern pair e) ∧
    ((∀ mac, pair.mac = some mac → Hmac.tag mac.bytes e.ciphertext ≠ e.tag) →
      ∀ (key key' : SecretKey) (nonce nonce' : List UInt8),
        key.bytes.length = KeyKind.gmEncryption.length →
        key'.bytes.length = KeyKind.gmEncryption.length →
        nonce.length = Suite.gm.nonceLength → nonce'.length = Suite.gm.nonceLength →
        gm.decrypt { pair with encryption := some key } { e with nonce } =
          gm.decrypt { pair with encryption := some key' } { e with nonce := nonce' }) ∧
    ((∃ mac, pair.mac = some mac ∧ Hmac.tag mac.bytes e.ciphertext = e.tag) →
      ∀ (encryption : Option SecretKey) (nonce : List UInt8),
        gm.decrypt { pair with encryption } { e with nonce } ≠ .error (.tampered .gm)) ∧
    (∀ (text : String) (entropy after : Entropy),
      (builtIn suite).encrypt pair text entropy = (.ok e, after) →
        (∀ tag, tag ≠ e.tag → suite = .gm ∨ tag.length = e.tag.length →
          (builtIn suite).decrypt pair { e with tag } = .error (.tampered suite)) ∧
        (suite = .gm → ∀ nonce, nonce.length = Suite.gm.nonceLength →
          gm.decrypt pair { e with nonce } = .error (.cipher .gm) ∨
          ∃ other, gm.decrypt pair { e with nonce } = .ok other ∧
            (Utf8.encode other).drop 16 = (Utf8.encode text).drop 16 ∧
            (16 ≤ (Utf8.encode text).length → (Utf8.encode other).take 16 =
              xorBytes (xorBytes ((Utf8.encode text).take 16) e.nonce) nonce))) := by
  have hmeets := meets_decrypt suite pair e
  refine ⟨hmeets, hmeets.exists_ok_iff, decrypt_eq_tampered_iff, authentic_of_cipher,
    fun mac? => Modern.decrypt_of_mac pair.encryption mac? pair.mac e,
    Modern.not_authentic_of_short, ?_, ?_, ?_⟩
  · intro htag key key' nonce nonce' hkey hkey' hnonce hnonce'
    exact Gm.decrypt_congr_of_not_tag hkey hkey' hnonce hnonce' htag
  · intro hauthentic encryption nonce htampered
    have hnot : ¬Authentic .gm { pair with encryption } { e with nonce } :=
      not_authentic_of_tampered htampered
    exact hnot hauthentic
  · intro text entropy after hsealed
    cases suite with
    | gm =>
      exact ⟨fun tag htag _ => Gm.decrypt_of_other_tag hsealed htag,
        fun _ nonce hnonce => Gm.decrypt_of_other_nonce hsealed hnonce⟩
    | modern =>
      refine ⟨fun tag htag hlen => ?_, nofun⟩
      exact Modern.decrypt_of_other_tag hsealed (hlen.resolve_left nofun) htag

/-- An envelope without any bytes, under keys of equal bytes: the tag is missing, whatever the
encryption key and the nonce. -/
theorem empty_envelope_is_refused :
    (∀ mac, some (⟨List.replicate 32 2⟩ : SecretKey) = some mac → Hmac.tag mac.bytes [] ≠ []) ∧
    gm.decrypt ⟨some ⟨List.replicate 16 1⟩, some ⟨List.replicate 32 2⟩⟩
        ⟨.gm, List.replicate 16 0, [], []⟩ =
      gm.decrypt ⟨some ⟨List.replicate 16 3⟩, some ⟨List.replicate 32 2⟩⟩
        ⟨.gm, List.replicate 16 4, [], []⟩ ∧
    ¬Authentic .modern ⟨some ⟨List.replicate 32 1⟩, none⟩ ⟨.modern, List.replicate 12 0, [], []⟩ := by
  have htag : ∀ mac, some (⟨List.replicate 32 2⟩ : SecretKey) = some mac →
      Hmac.tag mac.bytes [] ≠ [] := by
    intro mac _ h
    have hlen := congrArg List.length h
    rw [Hmac.length_tag] at hlen
    cases hlen
  refine ⟨htag, ?_, ?_⟩
  · obtain ⟨-, -, -, -, -, -, hsame, -⟩ := refused_for_first_obstacle .gm
      ⟨none, some ⟨List.replicate 32 2⟩⟩ ⟨.gm, [], [], []⟩
    exact hsame htag ⟨List.replicate 16 1⟩ ⟨List.replicate 16 3⟩ (List.replicate 16 0)
      (List.replicate 16 4) rfl rfl rfl rfl
  · obtain ⟨-, -, -, -, -, hshort, -⟩ := refused_for_first_obstacle .modern
      ⟨some ⟨List.replicate 32 1⟩, none⟩ ⟨.modern, List.replicate 12 0, [], []⟩
    exact hshort (by decide)

end FieldSeal.Sealer

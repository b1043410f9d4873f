import FieldSeal.Proofs.Action
import FieldSeal.Proofs.Cipher.Authenticated
import FieldSeal.Proofs.Cipher.Chaining
import FieldSeal.Sealer.Gm
import FieldSeal.Sealer.Modern

/-!
# Sealers open exactly what they seal

**Theorem (`opens_exactly_sealings`).** With keys of the right lengths, an envelope of a suite opens
to a text exactly when it is a sealing of that text under its own nonce. For the GM suite this fixes
both fields of the envelope; for the MODERN suite it fixes the concatenation of ciphertext and tag,
so that the place where the sealed bytes are cut in two is free.

**Outcomes.** `Gm.encrypt_eq_ok_iff`, `Gm.decrypt_eq_ok_iff` and their counterparts for MODERN say
which envelopes come out of sealing and which go into opening. Both are stated through the
encryption of the cipher, so that the theorem is a comparison of two lists of conditions.

**One sealer for each suite** (`builtIn`). What later modules need of either suite is
`decrypt_of_encrypt`: what is sealed, with whatever keys that was possible, opens with the same keys.
-/

namespace FieldSeal

/-! ## Texts and keys -/

namespace Utf8

/-- A byte string encodes at most one text, and a text has one encoding. -/
theorem decode?_eq_some_iff {bytes : List UInt8} {text : String} :
    decode? bytes = some text ↔ encode text = bytes := by
  refine ⟨?_, ?_⟩
  · intro h
    simp only [decode?, String.fromUTF8?, Option.dite_none_right_eq_some, Option.some.injEq] at h
    obtain ⟨hvalid, rfl⟩ := h
    rfl
  · intro h
    rw [← h, decode?_encode]

end Utf8

namespace KeyPair

theorem require_eq_ok_iff {pair : KeyPair} {suite : Suite} {kind : KeyKind} {key : SecretKey} :
    pair.require suite kind = .ok key ↔
      pair.slot kind = some key ∧ key.bytes.length = kind.length := by
  unfold require
  split
  · next h => simp [h]
  · next other h =>
    rw [h, Option.some.injEq]
    split
    · next hlen =>
      rw [Except.ok.injEq]
      constructor
      · rintro rfl
        exact ⟨rfl, hlen⟩
      · exact And.left
    · next hlen =>
      refine ⟨?_, ?_⟩
      · intro h'
        cases h'
      · intro h
        obtain ⟨rfl, hlen'⟩ := h
        exact absurd hlen' hlen

end KeyPair

namespace Sealer

theorem check_eq_ok_iff {suite : Suite} {e : Envelope} :
    check suite e = .ok () ↔ e.suite = suite ∧ e.nonce.length = suite.nonceLength := by
  unfold check
  split
  · next h => simp [h]
  · next h =>
    have hsuite : e.suite = suite := Decidable.not_not.1 h
    split
    · next hlen => simp [hlen]
    · next hlen => simp [hsuite, Decidable.not_not.1 hlen]

theorem textOf_eq_ok_iff {suite : Suite} {bytes : Option (List UInt8)} {text : String} :
    textOf suite bytes = .ok text ↔ bytes = some (Utf8.encode text) := by
  unfold textOf
  refine ⟨?_, ?_⟩
  · intro h
    split at h
    · next t ht =>
      cases h
      obtain ⟨b, rfl, hb⟩ := Option.bind_eq_some_iff.1 ht
      rw [Utf8.decode?_eq_some_iff.1 hb]
    · cases h
  · intro h
    obtain rfl := h
    rw [Option.bind_some, Utf8.decode?_encode]

/-! ## The GM suite -/

namespace Gm

theorem keys_eq_ok_iff {pair : KeyPair} {key mac : SecretKey} :
    keys pair = .ok (key, mac) ↔
      pair.require .gm .gmEncryption = .ok key ∧ pair.require .gm .gmMac = .ok mac := by
  unfold keys
  cases hkey : pair.require .gm .gmEncryption with
  | error e => simp [bind, Except.bind]
  | ok k =>
    cases hmac : pair.require .gm .gmMac with
    | error e => simp [bind, Except.bind]
    | ok m => simp [bind, Except.bind, pure, Except.pure]

/-- The keys in their slots, with the lengths of their kinds. -/
theorem keys_eq_ok {pair : KeyPair} {key mac : SecretKey} (hkey : pair.encryption = some key)
    (hmac : pair.mac = some mac) (hk : key.bytes.length = KeyKind.gmEncryption.length)
    (hm : mac.bytes.length = KeyKind.gmMac.length) : keys pair = .ok (key, mac) :=
  keys_eq_ok_iff.2
    ⟨KeyPair.require_eq_ok_iff.2 ⟨hkey, hk⟩, KeyPair.require_eq_ok_iff.2 ⟨hmac, hm⟩⟩

theorem length_of_keys {pair : KeyPair} {key mac : SecretKey} (h : keys pair = .ok (key, mac)) :
    key.bytes.length = 16 :=
  (KeyPair.require_eq_ok_iff.1 (keys_eq_ok_iff.1 h).1).2

/-- Without keys nothing is drawn; with them the nonce is drawn before the text is looked at. -/
theorem encrypt_apply (pair : KeyPair) (text : String) (entropy : Entropy) :
    encrypt pair text entropy =
      match keys pair with
      | .error cause => (.error cause, entropy)
      | .ok (key, mac) =>
        match Cbc.encrypt? key.bytes (entropy.draw Suite.gm.nonceLength).1 (Utf8.encode text) with
        | none => (.error (.keyLength .gmEncryption), (entropy.draw Suite.gm.nonceLength).2)
        | some ciphertext =>
          (.ok ⟨.gm, (entropy.draw Suite.gm.nonceLength).1, ciphertext,
            Hmac.tag mac.bytes ciphertext⟩, (entropy.draw Suite.gm.nonceLength).2) := by
  unfold encrypt
  rw [Action.bind_apply, Action.ofExcept_apply]
  cases keys pair with
  | error cause => rfl
  | ok found =>
    obtain ⟨key, mac⟩ := found
    simp only [Action.bind_apply, Action.total_apply]
    cases Cbc.encrypt? key.bytes (entropy.draw Suite.gm.nonceLength).1 (Utf8.encode text) <;> rfl

/-- What sealing yields: the nonce is drawn, the other fields follow from it. -/
theorem encrypt_eq_ok_iff {pair : KeyPair} {text : String} {entropy after : Entropy}
    {e : Envelope} :
    encrypt pair text entropy = (.ok e, after) ↔
      (entropy.draw Suite.gm.nonceLength).2 = after ∧ e.suite = .gm ∧
        e.nonce = (entropy.draw Suite.gm.nonceLength).1 ∧
        ∃ key mac, keys pair = .ok (key, mac) ∧
          Cbc.encrypt? key.bytes e.nonce (Utf8.encode text) = some e.ciphertext ∧
          Hmac.tag mac.bytes e.ciphertext = e.tag := by
  rw [encrypt_apply]
  cases hkeys : keys pair with
  | error cause =>
    refine ⟨?_, ?_⟩
    · intro h
      cases h
    · intro h
      obtain ⟨-, -, -, key, mac, h, -⟩ := h
      cases h
  | ok found =>
    obtain ⟨key, mac⟩ := found
    dsimp only
    cases hc : Cbc.encrypt? key.bytes (entropy.draw Suite.gm.nonceLength).1 (Utf8.encode text) with
    | none =>
      refine ⟨?_, ?_⟩
      · intro h
        cases h
      · intro h
        obtain ⟨-, -, hnonce, _, _, ⟨rfl, rfl⟩, h, -⟩ := h
        rw [hnonce, hc] at h
        cases h
    | some ciphertext =>
      refine ⟨?_, ?_⟩
      · intro h
        cases h
        exact ⟨rfl, rfl, rfl, key, mac, rfl, hc, rfl⟩
      · intro h
        obtain ⟨rfl, hsuite, hnonce, _, _, ⟨rfl, rfl⟩, h, htag⟩ := h
        rw [hnonce, hc, Option.some.injEq] at h
        dsimp only
        rw [h, htag, ← hnonce, ← hsuite]

/-- What opening accepts: the conditions are those of sealing, the nonce being given. -/
theorem decrypt_eq_ok_iff {pair : KeyPair} {e : Envelope} {text : String} :
    decrypt pair e = .ok text ↔
      e.suite = .gm ∧ e.nonce.length = Suite.gm.nonceLength ∧
        ∃ key mac, keys pair = .ok (key, mac) ∧
          Cbc.encrypt? key.bytes e.nonce (Utf8.encode text) = some e.ciphertext ∧
          Hmac.tag mac.bytes e.ciphertext = e.tag := by
  rw [← and_assoc, ← check_eq_ok_iff]
  unfold decrypt
  cases hcheck : check .gm e with
  | error cause => simp [bind, Except.bind]
  | ok _ =>
    cases hkeys : keys pair with
    | error cause => simp [bind, Except.bind]
    | ok found =>
      obtain ⟨key, mac⟩ := found
      simp only [bind, Except.bind, ne_eq, true_and, Except.ok.injEq,
        Prod.mk.injEq]
      by_cases htag : Hmac.tag mac.bytes e.ciphertext = e.tag
      · rw [if_neg (Decidable.not_not.2 htag)]
        refine ⟨?_, ?_⟩
        · intro h
          exact ⟨key, mac, ⟨rfl, rfl⟩, Cbc.decrypt?_eq_some_iff.1 (textOf_eq_ok_iff.1 h), htag⟩
        · intro h
          obtain ⟨_, _, ⟨rfl, rfl⟩, h, -⟩ := h
          exact textOf_eq_ok_iff.2 (Cbc.decrypt?_eq_some_iff.2 h)
      · rw [if_pos htag]
        refine ⟨?_, ?_⟩
        · intro h
          cases h
        · intro h
          obtain ⟨_, _, ⟨rfl, rfl⟩, -, h⟩ := h
          exact absurd h htag

theorem exists_encrypt_eq_ok {pair : KeyPair} {key mac : SecretKey}
    (hkeys : keys pair = .ok (key, mac)) (text : String) (entropy : Entropy) :
    ∃ e, encrypt pair text entropy = (.ok e, (entropy.draw Suite.gm.nonceLength).2) := by
  obtain ⟨ciphertext, hc⟩ := Cbc.exists_encrypt?_eq_some (length_of_keys hkeys)
    (Entropy.length_draw Suite.gm.nonceLength entropy) (Utf8.encode text)
  exact ⟨⟨.gm, _, ciphertext, Hmac.tag mac.bytes ciphertext⟩,
    encrypt_eq_ok_iff.2 ⟨rfl, rfl, rfl, key, mac, hkeys, hc, rfl⟩⟩

end Gm

/-! ## The MODERN suite -/

namespace Modern

/-- Without a key nothing is drawn; with it the nonce is drawn before the text is looked at. -/
theorem encrypt_apply (pair : KeyPair) (text : String) (entropy : Entropy) :
    encrypt pair text entropy =
      match pair.require .modern .modernEncryption with
      | .error cause => (.error cause, entropy)
      | .ok key =>
        match ChaChaPoly.encrypt? key.bytes (entropy.draw Suite.modern.nonceLength).1
            (Utf8.encode text) with
        | none => (.error (.cipher .modern), (entropy.draw Suite.modern.nonceLength).2)
        | some (ciphertext, tag) =>
          (.ok ⟨.modern, (entropy.draw Suite.modern.nonceLength).1, ciphertext, tag⟩,
            (entropy.draw Suite.modern.nonceLength).2) := by
  unfold encrypt
  rw [Action.bind_apply, Action.ofExcept_apply]
  cases pair.require .modern .modernEncryption with
  | error cause => rfl
  | ok key =>
    simp only [Action.bind_apply, Action.total_apply]
    cases ChaChaPoly.encrypt? key.bytes (entropy.draw Suite.modern.nonceLength).1
      (Utf8.encode text) <;> rfl

/-- What sealing yields: the nonce is drawn, the other fields follow from it. -/
theorem encrypt_eq_ok_iff {pair : KeyPair} {text : String} {entropy after : Entropy}
    {e : Envelope} :
    encrypt pair text entropy = (.ok e, after) ↔
      (entropy.draw Suite.modern.nonceLength).2 = after ∧ e.suite = .modern ∧
        e.nonce = (entropy.draw Suite.modern.nonceLength).1 ∧
        ∃ key, pair.require .modern .modernEncryption = .ok key ∧
          ChaChaPoly.encrypt? key.bytes e.nonce (Utf8.encode text) =
            some (e.ciphertext, e.tag) := by
  rw [encrypt_apply]
  cases hkey : pair.require .modern .modernEncryption with
  | error cause =>
    refine ⟨?_, ?_⟩
    · intro h
      cases h
    · intro h
      obtain ⟨-, -, -, key, h, -⟩ := h
      cases h
  | ok key =>
    dsimp only
    cases hc : ChaChaPoly.encrypt? key.bytes (entropy.draw Suite.modern.nonceLength).1
        (Utf8.encode text) with
    | none =>
      refine ⟨?_, ?_⟩
      · intro h
        cases h
      · intro h
        obtain ⟨-, -, hnonce, _, ⟨rfl⟩, h⟩ := h
        rw [hnonce, hc] at h
        cases h
    | some sealed =>
      obtain ⟨ciphertext, tag⟩ := sealed
      refine ⟨?_, ?_⟩
      · intro h
        cases h
        exact ⟨rfl, rfl, rfl, key, rfl, hc⟩
      · intro h
        obtain ⟨rfl, hsuite, hnonce, _, ⟨rfl⟩, h⟩ := h
        rw [hnonce, hc, Option.some.injEq, Prod.mk.injEq] at h
        dsimp only
        rw [h.1, h.2, ← hnonce, ← hsuite]

/-- What opening accepts: the two fields together are sealed bytes. -/
theorem decrypt_eq_ok_iff {pair : KeyPair} {e : Envelope} {text : String} :
    decrypt pair e = .ok text ↔
      e.suite = .modern ∧ e.nonce.length = Suite.modern.nonceLength ∧
        ∃ key, pair.require .modern .modernEncryption = .ok key ∧
          ∃ ciphertext tag,
            ChaChaPoly.encrypt? key.bytes e.nonce (Utf8.encode text) = some (ciphertext, tag) ∧
              e.ciphertext ++ e.tag = ciphertext ++ tag := by
  rw [← and_assoc, ← check_eq_ok_iff]
  unfold decrypt
  cases hcheck : check .modern e with
  | error cause => simp [bind, Except.bind]
  | ok _ =>
    cases hkey : pair.require .modern .modernEncryption with
    | error cause => simp [bind, Except.bind]
    | ok key =>
      simp only [bind, Except.bind, true_and, Except.ok.injEq, exists_eq_left',
        ← ChaChaPoly.decrypt?_eq_some_iff]
      split
      · next h => simp [h]
      · next bytes h => rw [h, textOf_eq_ok_iff]

theorem exists_encrypt_eq_ok {pair : KeyPair} {key : SecretKey}
    (hkey : pair.require .modern .modernEncryption = .ok key) {text : String}
    (hlimit : (Utf8.encode text).length / 64 < ChaChaPoly.blockLimit) (entropy : Entropy) :
    ∃ e, encrypt pair text entropy = (.ok e, (entropy.draw Suite.modern.nonceLength).2) := by
  obtain ⟨ciphertext, tag, hc⟩ := ChaChaPoly.exists_encrypt?_eq_some hlimit key.bytes
    (entropy.draw Suite.modern.nonceLength).1
  exact ⟨⟨.modern, _, ciphertext, tag⟩,
    encrypt_eq_ok_iff.2 ⟨rfl, rfl, rfl, key, hkey, hc⟩⟩

end Modern

/-! ## Both suites -/

/-- The sealer of a suite. -/
def builtIn : Suite → Sealer
  | .gm => gm
  | .modern => modern

@[simp] theorem suite_builtIn (suite : Suite) : (builtIn suite).suite = suite := by
  cases suite <;> rfl

/-- **What was sealed opens with the same keys.** -/
theorem decrypt_of_encrypt {suite : Suite} {pair : KeyPair} {text : String}
    {entropy after : Entropy} {e : Envelope}
    (h : (builtIn suite).encrypt pair text entropy = (.ok e, after)) :
    e.suite = suite ∧ e.nonce.length = suite.nonceLength ∧
      (builtIn suite).decrypt pair e = .ok text := by
  cases suite with
  | gm =>
    obtain ⟨-, hsuite, hnonce, hfields⟩ := Gm.encrypt_eq_ok_iff.1 h
    have hlen : e.nonce.length = Suite.gm.nonceLength := by rw [hnonce, Entropy.length_draw]
    exact ⟨hsuite, hlen, Gm.decrypt_eq_ok_iff.2 ⟨hsuite, hlen, hfields⟩⟩
  | modern =>
    obtain ⟨-, hsuite, hnonce, key, hkey, hc⟩ := Modern.encrypt_eq_ok_iff.1 h
    have hlen : e.nonce.length = Suite.modern.nonceLength := by rw [hnonce, Entropy.length_draw]
    exact ⟨hsuite, hlen,
      Modern.decrypt_eq_ok_iff.2 ⟨hsuite, hlen, key, hkey, _, _, hc, rfl⟩⟩

/-- An envelope of the GM suite opens to the text of which sealing makes it when its nonce is the
one that is drawn. -/
theorem Gm.decrypt_eq_ok_iff_encrypt {pair : KeyPair} {e : Envelope} {text : String}
    {entropy : Entropy} (hnonce : (entropy.draw Suite.gm.nonceLength).1 = e.nonce) :
    decrypt pair e = .ok text ↔ (encrypt pair text entropy).1 = .ok e := by
  refine ⟨?_, ?_⟩
  · intro h
    obtain ⟨hsuite, -, hfields⟩ := decrypt_eq_ok_iff.1 h
    rw [encrypt_eq_ok_iff.2 ⟨rfl, hsuite, hnonce.symm, hfields⟩]
  · intro h
    obtain ⟨-, hsuite, hdrawn, hfields⟩ := encrypt_eq_ok_iff.1 (Prod.ext h rfl)
    refine decrypt_eq_ok_iff.2 ⟨hsuite, ?_, hfields⟩
    rw [hdrawn, Entropy.length_draw]

/-- Opening an envelope of the MODERN suite looks at its two byte fields only joined together. -/
theorem Modern.decrypt_congr (pair : KeyPair) {e e' : Envelope} (hsuite : e.suite = e'.suite)
    (hnonce : e.nonce = e'.nonce) (hjoin : e.ciphertext ++ e.tag = e'.ciphertext ++ e'.tag) :
    decrypt pair e = decrypt pair e' := by
  have hcheck : check .modern e = check .modern e' := by
    unfold check
    rw [hsuite, hnonce]
  unfold decrypt
  rw [hcheck, hnonce, hjoin]

/-- **Sealers open exactly what they seal.** Let the keys have the lengths of their kinds.

- An envelope of the GM suite opens to `text` if and only if its ciphertext is the encryption of
  the text under its nonce and its tag is the tag of that ciphertext, that is, if and only if it is
  the envelope that sealing makes when it draws this nonce.
- An envelope of the MODERN suite opens to `text` if and only if its ciphertext and tag, joined, are
  the sealed bytes of the text under its nonce. All ways to cut the same bytes in two have the same
  outcome.
- Every text can be sealed, for MODERN up to the length limit of the cipher, and opens again. -/
theorem opens_exactly_sealings {key mac modernKey : SecretKey} (unused : Option SecretKey)
    (hkey : key.bytes.length = KeyKind.gmEncryption.length)
    (hmac : mac.bytes.length = KeyKind.gmMac.length)
    (hmodern : modernKey.bytes.length = KeyKind.modernEncryption.length) :
    (∀ (e : Envelope) (text : String), e.suite = .gm → e.nonce.length = Suite.gm.nonceLength →
      (gm.decrypt ⟨some key, some mac⟩ e = .ok text ↔
        Cbc.encrypt? key.bytes e.nonce (Utf8.encode text) = some e.ciphertext ∧
          Hmac.tag mac.bytes e.ciphertext = e.tag ∧ e.tag.length = 32) ∧
      ∀ entropy : Entropy, (entropy.draw Suite.gm.nonceLength).1 = e.nonce →
        (gm.decrypt ⟨some key, some mac⟩ e = .ok text ↔
          (gm.encrypt ⟨some key, some mac⟩ text entropy).1 = .ok e)) ∧
    (∀ (e : Envelope) (text : String), e.suite = .modern →
      e.nonce.length = Suite.modern.nonceLength →
      (modern.decrypt ⟨some modernKey, unused⟩ e = .ok text ↔
        ∃ ciphertext tag,
          ChaChaPoly.encrypt? modernKey.bytes e.nonce (Utf8.encode text) =
            some (ciphertext, tag) ∧
          e.ciphertext ++ e.tag = ciphertext ++ tag) ∧
      ∀ ciphertext tag, ciphertext ++ tag = e.ciphertext ++ e.tag →
        modern.decrypt ⟨some modernKey, unused⟩ { e with ciphertext, tag } =
          modern.decrypt ⟨some modernKey, unused⟩ e) ∧
    (∀ (text : String) (entropy : Entropy),
      (∃ e after, gm.encrypt ⟨some key, some mac⟩ text entropy = (.ok e, after) ∧
        gm.decrypt ⟨some key, some mac⟩ e = .ok text) ∧
      ((Utf8.encode text).length / 64 < ChaChaPoly.blockLimit →
        ∃ e after, modern.encrypt ⟨some modernKey, unused⟩ text entropy = (.ok e, after) ∧
          modern.decrypt ⟨some modernKey, unused⟩ e = .ok text)) := by
  have hgm : Gm.keys ⟨some key, some mac⟩ = .ok (key, mac) := Gm.keys_eq_ok rfl rfl hkey hmac
  have hfound : (⟨some modernKey, unused⟩ : KeyPair).require .modern .modernEncryption =
      .ok modernKey := KeyPair.require_eq_ok_iff.2 ⟨rfl, hmodern⟩
  refine ⟨fun e text hsuite hnonce => ⟨?_, fun entropy => Gm.decrypt_eq_ok_iff_encrypt⟩,
    fun e text hsuite hnonce => ⟨?_, fun ciphertext tag hjoin => ?_⟩,
    fun text entropy => ⟨?_, fun hlimit => ?_⟩⟩
  · show Gm.decrypt _ e = .ok text ↔ _
    rw [Gm.decrypt_eq_ok_iff, hgm]
    refine ⟨?_, ?_⟩
    · intro h
      obtain ⟨-, -, _, _, ⟨rfl, rfl⟩, hc, htag⟩ := h
      exact ⟨hc, htag, by rw [← htag, Hmac.length_tag]⟩
    · intro h
      obtain ⟨hc, htag, -⟩ := h
      exact ⟨hsuite, hnonce, key, mac, rfl, hc, htag⟩
  · show Modern.decrypt _ e = .ok text ↔ _
    rw [Modern.decrypt_eq_ok_iff, hfound]
    refine ⟨?_, ?_⟩
    · intro h
      obtain ⟨-, -, _, ⟨rfl⟩, h⟩ := h
      exact h
    · intro h
      exact ⟨hsuite, hnonce, modernKey, rfl, h⟩
  · exact Modern.decrypt_congr _ rfl rfl hjoin
  · obtain ⟨e, he⟩ := Gm.exists_encrypt_eq_ok hgm text entropy
    exact ⟨e, _, he, (@decrypt_of_encrypt .gm _ _ _ _ _ he).2.2⟩
  · obtain ⟨e, he⟩ := Modern.exists_encrypt_eq_ok hfound hlimit entropy
    exact ⟨e, _, he, (@decrypt_of_encrypt .modern _ _ _ _ _ he).2.2⟩

/-- The empty text, whose padding is a whole block, under keys of equal bytes. -/
theorem empty_text_opens_under_constant_keys :
    (List.replicate 16 (1 : UInt8)).length = KeyKind.gmEncryption.length ∧
    (List.replicate 32 (2 : UInt8)).length = KeyKind.gmMac.length ∧
    (List.replicate 32 (3 : UInt8)).length = KeyKind.modernEncryption.length ∧
    (∃ e after, gm.encrypt ⟨some ⟨List.replicate 16 1⟩, some ⟨List.replicate 32 2⟩⟩ ""
        (Entropy.cycle []) = (.ok e, after) ∧
      gm.decrypt ⟨some ⟨List.replicate 16 1⟩, some ⟨List.replicate 32 2⟩⟩ e = .ok "") ∧
    ∃ e after, modern.encrypt ⟨some ⟨List.replicate 32 3⟩, none⟩ "" (Entropy.cycle []) =
        (.ok e, after) ∧
      modern.decrypt ⟨some ⟨List.replicate 32 3⟩, none⟩ e = .ok "" := by
  obtain ⟨-, -, h⟩ := @opens_exactly_sealings ⟨List.replicate 16 1⟩
    ⟨List.replicate 32 2⟩ ⟨List.replicate 32 3⟩ none rfl rfl rfl
  obtain ⟨hgm, hmodern⟩ := h "" (Entropy.cycle [])
  exact ⟨rfl, rfl, rfl, hgm, hmodern (by decide)⟩

end Sealer

end FieldSeal

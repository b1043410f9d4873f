import FieldSeal.Proofs.Sealer.Obstacle
import FieldSeal.Proofs.Service.Binding

/-!
# Keys that are missing

**Sealers.** Let the keys of a pair have the lengths of their kinds. A sealer refuses texts and
envelopes for the first key that the pair lacks (`KeyPair.missing?`). With all its keys it seals every
text that the cipher can take, and what it does not open was tampered with or fails in the cipher.

**Services.** A service with built-in sealers answers what the sealer of the suite answers to the pair
from the supply, so the same holds of it (`encrypt_of_missing`, `decrypt_of_missing`).
-/

namespace FieldSeal

namespace KeyPair

/-- The first key that the suite needs and the pair does not have. -/
def missing? (pair : KeyPair) (suite : Suite) : Option KeyKind :=
  (KeyKind.requiredBy suite).find? fun kind => (pair.slot kind).isNone

/-- The keys that the suite needs have the lengths of their kinds, as far as the pair has them. -/
def Sized (pair : KeyPair) (suite : Suite) : Prop :=
  ∀ kind ∈ KeyKind.requiredBy suite, ∀ key, pair.slot kind = some key →
    key.bytes.length = kind.length

variable {pair : KeyPair} {suite : Suite}

theorem missing?_of_fits (h : pair.fits suite) : pair.missing? suite = none := by
  refine List.find?_eq_none.2 fun kind hkind => ?_
  obtain ⟨key, hkey⟩ := fits_iff.1 h kind hkind
  simp [(require_eq_ok_iff.1 hkey).1]

theorem sized_of_fits (h : pair.fits suite) : pair.Sized suite := by
  intro kind hkind key hslot
  obtain ⟨found, hfound⟩ := fits_iff.1 h kind hkind
  obtain ⟨hsame, hlength⟩ := require_eq_ok_iff.1 hfound
  cases hsame.symm.trans hslot
  exact hlength

end KeyPair

/-! ## Sealers -/

namespace Sealer

variable {suite : Suite} {pair : KeyPair} {e : Envelope} {text : String} {kind : KeyKind}
  {kinds : List KeyKind} {os : List Obstacle} {error : EnvelopeError}

/-- Of the obstacles that keys can be, the first missing key is the one that counts. -/
theorem stops_keyObstacles_append
    (hsized : ∀ kind ∈ kinds, ∀ key, pair.slot kind = some key → key.bytes.length = kind.length) :
    Stops (kinds.flatMap (keyObstacles suite pair) ++ os) error ↔
      match kinds.find? fun kind => (pair.slot kind).isNone with
      | some kind => error = .missingKey suite kind
      | none => Stops os error := by
  induction kinds with
  | nil => rfl
  | cons kind kinds ih =>
    have hrest := ih fun other hother => hsized other (List.mem_cons_of_mem _ hother)
    rw [List.flatMap_cons, List.append_assoc]
    show Stops (⟨pair.slot kind = none, _⟩ ::
      ⟨∃ key, pair.slot kind = some key ∧ key.bytes.length ≠ kind.length, _⟩ :: _) error ↔ _
    cases hslot : pair.slot kind with
    | none =>
      rw [stops_cons_of_present (o := ⟨none = none, _⟩) rfl,
        List.find?_cons_of_pos (by rw [hslot]; rfl)]
    | some key =>
      have hlength : ¬∃ found, some key = some found ∧ found.bytes.length ≠ kind.length := by
        rintro ⟨_, ⟨rfl⟩, hne⟩
        exact hne (hsized kind List.mem_cons_self key hslot)
      rw [stops_cons_of_absent (o := ⟨some key = none, _⟩) nofun, stops_cons_of_absent hlength,
        List.find?_cons_of_neg (by rw [hslot]; exact nofun)]
      exact hrest

/-- Without its keys a sealer fails as the search for them does. -/
theorem Gm.encrypt_eq_bind (pair : KeyPair) (text : String) (entropy : Entropy) :
    (encrypt pair text entropy).1 = keys pair >>= fun _ => (encrypt pair text entropy).1 := by
  rw [encrypt_apply]
  cases keys pair <;> rfl

theorem Modern.encrypt_eq_bind (pair : KeyPair) (text : String) (entropy : Entropy) :
    (encrypt pair text entropy).1 =
      pair.require .modern .modernEncryption >>= fun _ => (encrypt pair text entropy).1 := by
  rw [encrypt_apply]
  cases pair.require .modern .modernEncryption <;> rfl

/-- A text that is too long stops the cipher, and nothing else does. -/
theorem Modern.meets_encrypt {key : SecretKey}
    (hkey : pair.require .modern .modernEncryption = .ok key) (text : String) (entropy : Entropy) :
    Meets [⟨Suite.modern.Overflows text, .cipher .modern⟩] (encrypt pair text entropy).1 := by
  refine Meets.singleton (fun e he => ?_) fun error herror => ?_
  · rintro ⟨-, hlimit⟩
    obtain ⟨-, -, -, found, -, hsealed⟩ := encrypt_eq_ok_iff.1 (Prod.ext he rfl)
    exact Nat.not_lt.2 hlimit (ChaChaPoly.encrypt?_eq_some_iff.1 hsealed).1
  · refine ⟨⟨rfl, Nat.not_lt.1 fun hlimit => ?_⟩, ?_⟩
    · obtain ⟨e, he⟩ := exists_encrypt_eq_ok hkey hlimit entropy
      rw [he] at herror
      cases herror
    · rw [encrypt_apply, hkey] at herror
      dsimp only at herror
      split at herror <;> cases herror
      rfl

/-- The obstacles to sealing are the keys and the length of the text. -/
theorem meets_encrypt (suite : Suite) (pair : KeyPair) (text : String) (entropy : Entropy) :
    Meets ((KeyKind.requiredBy suite).flatMap (keyObstacles suite pair) ++
        [⟨suite.Overflows text, .cipher suite⟩])
      ((builtIn suite).encrypt pair text entropy).1 := by
  cases suite with
  | gm =>
    show Meets _ (Gm.encrypt pair text entropy).1
    rw [Gm.encrypt_eq_bind]
    refine (Gm.meets_keys pair).bind fun found hkeys => ?_
    obtain ⟨e, he⟩ := Gm.exists_encrypt_eq_ok hkeys text entropy
    rw [he]
    exact Meets.singleton (fun _ _ h => nomatch h.1) fun _ h => nomatch h
  | modern =>
    show Meets _ (Modern.encrypt pair text entropy).1
    rw [Modern.encrypt_eq_bind]
    refine Meets.bind ?_ fun key hkey => Modern.meets_encrypt hkey text entropy
    exact meets_require .modern pair .modernEncryption

theorem encrypt_of_missing (hsized : pair.Sized suite) (h : pair.missing? suite = some kind)
    (text : String) (entropy : Entropy) :
    ((builtIn suite).encrypt pair text entropy).1 = .error (.missingKey suite kind) := by
  rw [meets_encrypt, stops_keyObstacles_append hsized, ← KeyPair.missing?, h]

/-- With all its keys a sealer fails on nothing but the length of the text. -/
theorem encrypt_of_complete (hsized : pair.Sized suite) (h : pair.missing? suite = none)
    (text : String) (entropy : Entropy) :
    (∃ e, ((builtIn suite).encrypt pair text entropy).1 = .ok e) ∨
      suite.Overflows text ∧
        ((builtIn suite).encrypt pair text entropy).1 = .error (.cipher suite) := by
  cases hresult : ((builtIn suite).encrypt pair text entropy).1 with
  | ok e => exact .inl ⟨e, rfl⟩
  | error error =>
    have hstops := (meets_encrypt suite pair text entropy error).1 hresult
    rw [stops_keyObstacles_append hsized, ← KeyPair.missing?, h] at hstops
    obtain ⟨o, ho, hpresent, rfl⟩ := hstops.exists_mem
    cases List.mem_singleton.1 ho
    exact .inr ⟨hpresent, rfl⟩

/-- Behind the check of the form, the keys and then the cipher decide. -/
theorem stops_obstacles_of_check (hcheck : check suite e = .ok ()) (hsized : pair.Sized suite) :
    Stops (obstacles suite pair e) error ↔
      match pair.missing? suite with
      | some kind => error = .missingKey suite kind
      | none => Stops (cipherObstacles suite pair e) error := by
  have hform := (meets_check suite e).exists_ok_iff.1 ⟨(), hcheck⟩
  rw [obstacles, preliminaries, List.append_assoc, stops_append_of_clear hform,
    stops_keyObstacles_append hsized, KeyPair.missing?]

theorem decrypt_of_missing (hcheck : check suite e = .ok ()) (hsized : pair.Sized suite)
    (h : pair.missing? suite = some kind) :
    (builtIn suite).decrypt pair e = .error (.missingKey suite kind) := by
  rw [meets_decrypt, stops_obstacles_of_check hcheck hsized, h]

/-- With all its keys a sealer opens an envelope of its form, unless it was tampered with or the
cipher fails. -/
theorem decrypt_of_complete (hcheck : check suite e = .ok ()) (hsized : pair.Sized suite)
    (h : pair.missing? suite = none) :
    (∃ text, (builtIn suite).decrypt pair e = .ok text) ∨
      (builtIn suite).decrypt pair e = .error (.tampered suite) ∨
      (builtIn suite).decrypt pair e = .error (.cipher suite) := by
  cases hresult : (builtIn suite).decrypt pair e with
  | ok text => exact .inl ⟨text, rfl⟩
  | error error =>
    have hstops := (meets_decrypt suite pair e error).1 hresult
    rw [stops_obstacles_of_check hcheck hsized, h] at hstops
    obtain ⟨o, ho, -, rfl⟩ := hstops.exists_mem
    simp only [cipherObstacles, List.mem_cons, List.not_mem_nil, or_false] at ho
    rcases ho with rfl | rfl
    · exact .inr (.inl rfl)
    · exact .inr (.inr rfl)

end Sealer

/-! ## Services -/

namespace Service

variable {s : Service} {suite : Suite} {pair : KeyPair} {e : Envelope} {wire : String}

/-- The service answers as the sealer of the active suite does. -/
theorem encrypt_eq (hs : s.BuiltIn) (hoffers : s.Offers s.policy.ask.1)
    (hpair : (pairFor s.policy.ask.1 s).1 = .ok pair) (text : String) :
    ∃ entropy, (encrypt text s).1 =
      ((Sealer.builtIn s.policy.ask.1).encrypt pair text entropy).1 := by
  obtain ⟨kept, hfound, hsealer⟩ := found?_of_offers hs hoffers
  refine ⟨(pairFor s.policy.ask.1 s).2.host.entropy, ?_⟩
  rw [encrypt_of_found text hfound, hsealer, sealedBy, hpair, except_ok_bind]

theorem decrypt_eq_of_pair (hs : s.BuiltIn) (hoffers : s.Offers e.suite)
    (hpair : (pairFor e.suite s).1 = .ok pair) (h : Envelope.parse wire = .ok e) :
    (decrypt wire s).1 = (Sealer.builtIn e.suite).decrypt pair e := by
  rw [(decrypt_eq hs h).1 hoffers, openedBy, hpair, except_ok_bind]

end Service

end FieldSeal

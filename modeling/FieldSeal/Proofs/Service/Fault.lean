import FieldSeal.Proofs.Envelope.Readers
import FieldSeal.Proofs.Service.Log
import FieldSeal.Proofs.Service.Missing

/-!
# Which suite an error concerns

An error that comes from a sealer, from its keys or from the want of it names the suite or a key of
the suite (`EnvelopeError.suite?`). An error about the form of a text or of a mask names none. So
whoever sees an error of a service whose supply refuses nothing knows whether the service came as far
as asking for keys, and for which suite.

Tampering is reported of the suite of the envelope alone, and of nothing that was to be sealed.

**Want of means** (`EnvelopeError.lacksMeans`). Some errors say that there is no sealer, or not the keys
for it. A service that fails to seal with one of them was not able to seal
(`sealing?_of_lacksMeans`).
-/

namespace FieldSeal

/-- The suite that the error concerns, if it names one or a key of one. -/
def EnvelopeError.suite? : EnvelopeError → Option Suite
  | .missingKey suite _ | .tampered suite | .unsupported suite | .cipher suite => some suite
  | .keyLength kind | .keyEncoding kind => some kind.suite
  | .unknownSuite _ | .unknownKeyKind _ | .malformed _ => none

/-- The error is about the keys or the cipher of the suite, and not about authentication. -/
def EnvelopeError.Concerns (cause : EnvelopeError) (suite : Suite) : Prop :=
  cause.suite? = some suite ∧ ∀ other, cause ≠ .tampered other

/-- There is no sealer for a suite, or a key is missing or has the wrong length. -/
def EnvelopeError.lacksMeans : EnvelopeError → Bool
  | .unsupported _ | .missingKey _ _ | .keyLength _ => true
  | _ => false

variable {suite : Suite} {pair : KeyPair} {e : Envelope} {text : String} {cause : EnvelopeError}

theorem Envelope.suite?_of_parse_error (h : parse text = .error cause) : cause.suite? = none := by
  obtain ⟨o, ho, -, rfl⟩ := ((meets_parse text cause).1 h).exists_mem
  simp only [readingObstacles, unreadable, List.mem_cons, List.not_mem_nil, or_false] at ho
  rcases ho with rfl | rfl | rfl | rfl | rfl | rfl <;> rfl

/-! ## Sealers -/

namespace Sealer

theorem concerns_of_mem_keyObstacles {o : Obstacle}
    (h : o ∈ (KeyKind.requiredBy suite).flatMap (keyObstacles suite pair)) :
    o.error.Concerns suite := by
  obtain ⟨kind, hkind, ho⟩ := List.mem_flatMap.1 h
  simp only [keyObstacles, List.mem_cons, List.not_mem_nil, or_false] at ho
  rcases ho with rfl | rfl
  · exact ⟨rfl, fun other h => by cases h⟩
  · exact ⟨congrArg some ((KeyKind.mem_requiredBy_iff kind suite).1 hkind), fun other h => by cases h⟩

theorem concerns_of_encrypt {entropy : Entropy}
    (h : ((builtIn suite).encrypt pair text entropy).1 = .error cause) : cause.Concerns suite := by
  obtain ⟨o, ho, -, rfl⟩ := ((meets_encrypt suite pair text entropy cause).1 h).exists_mem
  rcases List.mem_append.1 ho with ho | ho
  · exact concerns_of_mem_keyObstacles ho
  · cases List.mem_singleton.1 ho
    exact ⟨rfl, fun other h => by cases h⟩

theorem suite?_of_mem_cipherObstacles {o : Obstacle} (h : o ∈ cipherObstacles suite pair e) :
    o.error.suite? = some suite := by
  simp only [cipherObstacles, List.mem_cons, List.not_mem_nil, or_false] at h
  rcases h with rfl | rfl <;> rfl

/-- Whatever its form, an envelope is reported as tampered only by the sealer of its suite. -/
theorem eq_of_tampered {other : Suite}
    (h : (builtIn suite).decrypt pair e = .error (.tampered other)) : other = suite := by
  obtain ⟨o, ho, -, herror⟩ := ((meets_decrypt suite pair e _).1 h).exists_mem
  rcases List.mem_append.1 ho with ho | ho
  · rcases List.mem_append.1 ho with ho | ho
    · simp only [formObstacles, List.mem_cons, List.not_mem_nil, or_false] at ho
      rcases ho with rfl | rfl <;> cases herror
    · exact absurd herror ((concerns_of_mem_keyObstacles ho).2 other)
  · have hsuite := suite?_of_mem_cipherObstacles ho
    rw [herror] at hsuite
    exact Option.some.inj hsuite

/-- An envelope of the right form is refused with an error that names the suite. -/
theorem suite?_of_decrypt (hlength : e.nonce.length = e.suite.nonceLength)
    (h : (builtIn e.suite).decrypt pair e = .error cause) : cause.suite? = some e.suite := by
  have hform := (meets_check e.suite e).exists_ok_iff.1 ⟨(), check_eq_ok_iff.2 ⟨rfl, hlength⟩⟩
  have hstops := (meets_decrypt e.suite pair e cause).1 h
  rw [obstacles, preliminaries, List.append_assoc, stops_append_of_clear hform] at hstops
  obtain ⟨o, ho, -, rfl⟩ := hstops.exists_mem
  rcases List.mem_append.1 ho with ho | ho
  · exact (concerns_of_mem_keyObstacles ho).1
  · exact suite?_of_mem_cipherObstacles ho

end Sealer

/-! ## Services -/

namespace Service

variable {s : Service} {keys : KeyPair}

theorem pairFor_error_iff :
    (pairFor suite s).1 = .error cause ↔ s.supply.refusal? suite = some cause :=
  KeySupply.pairFor_eq_error_iff

/-- An envelope is of the active suite, and nothing is sealed without keys. -/
theorem suite_of_encrypt (hs : s.BuiltIn) (h : (encrypt text s).1 = .ok e) :
    e.suite = s.policy.ask.1 ∧ s.supply.refusal? s.policy.ask.1 = none := by
  by_cases hoffers : s.Offers s.policy.ask.1
  · cases hpair : (pairFor s.policy.ask.1 s).1 with
    | ok pair =>
      obtain ⟨entropy, hsealed⟩ := encrypt_eq hs hoffers hpair text
      refine ⟨(Sealer.nonce_of_encrypt (hsealed.symm.trans h)).2.1, ?_⟩
      rw [Option.eq_none_iff_forall_ne_some]
      intro cause hcause
      cases hpair.symm.trans (pairFor_error_iff.2 hcause)
    | error cause =>
      obtain ⟨kept, hfound, -⟩ := found?_of_offers hs hoffers
      rw [encrypt_of_found text hfound, sealedBy, hpair] at h
      cases h
  · rw [encrypt_of_not_offers hoffers] at h
    cases h

/-- Sealing fails because keys are refused, or with an error that concerns the active suite. -/
theorem concerns_of_encrypt (hs : s.BuiltIn) (h : (encrypt text s).1 = .error cause) :
    s.supply.refusal? s.policy.ask.1 = some cause ∨ cause.Concerns s.policy.ask.1 := by
  by_cases hoffers : s.Offers s.policy.ask.1
  · cases hpair : (pairFor s.policy.ask.1 s).1 with
    | ok pair =>
      obtain ⟨entropy, hsealed⟩ := encrypt_eq hs hoffers hpair text
      exact .inr (Sealer.concerns_of_encrypt (hsealed.symm.trans h))
    | error other =>
      obtain ⟨kept, hfound, -⟩ := found?_of_offers hs hoffers
      rw [encrypt_of_found text hfound, sealedBy, hpair] at h
      cases h
      exact .inl (pairFor_error_iff.1 hpair)
  · rw [encrypt_of_not_offers hoffers] at h
    cases h
    exact .inr ⟨rfl, fun other h => by cases h⟩

/-- No mask and no form is at fault when sealing fails, unless the supply says so. -/
theorem refusal?_of_malformed (hs : s.BuiltIn) {fault : Malformation}
    (h : (encrypt text s).1 = .error (.malformed fault)) :
    s.supply.refusal? s.policy.ask.1 = some (.malformed fault) := by
  rcases concerns_of_encrypt hs h with hrefusal | ⟨hsuite, -⟩
  · exact hrefusal
  · cases hsuite

/-- Whoever has a sealer and the keys for it does not fail for the want of them. -/
theorem sealing?_of_lacksMeans (hs : s.BuiltIn) (hsized : s.supply.Sized)
    (h : (encrypt text s).1 = .error cause) (hcause : cause.lacksMeans) : s.sealing? = none := by
  refine if_neg ?_
  rintro ⟨hoffers, hserves⟩
  cases hpair : (pairFor s.policy.ask.1 s).1 with
  | error other =>
    rw [KeySupply.serves_of_pairFor_error hpair] at hserves
    cases hserves
  | ok pair =>
    -- With its keys a sealer fails on nothing but a text that is too long.
    rw [← KeySupply.fits_iff_of_pairFor hsized hpair] at hserves
    obtain ⟨entropy, hsealed⟩ := encrypt_eq hs hoffers hpair text
    rcases Sealer.encrypt_of_complete (KeyPair.sized_of_fits hserves)
      (KeyPair.missing?_of_fits hserves) text entropy with ⟨e, he⟩ | ⟨-, hcipher⟩
    · cases h.symm.trans (hsealed.trans he)
    · cases h.symm.trans (hsealed.trans hcipher)
      cases hcause

theorem eq_of_tampered (hs : s.BuiltIn) {other : Suite}
    (h : (decryptWith keys e s).1 = .error (.tampered other)) : other = e.suite := by
  by_cases hoffers : s.Offers e.suite
  · obtain ⟨kept, hfound, hsealer⟩ := found?_of_offers hs hoffers
    rw [decryptWith_of_found hfound, hsealer] at h
    exact Sealer.eq_of_tampered h
  · rw [decryptWith_of_not_found (found?_of_not_offers hoffers)] at h
    cases h

theorem suite?_of_decryptWith (hs : s.BuiltIn) (hlength : e.nonce.length = e.suite.nonceLength)
    (h : (decryptWith keys e s).1 = .error cause) : cause.suite? = some e.suite := by
  by_cases hoffers : s.Offers e.suite
  · obtain ⟨kept, hfound, hsealer⟩ := found?_of_offers hs hoffers
    rw [decryptWith_of_found hfound, hsealer] at h
    exact Sealer.suite?_of_decrypt hlength h
  · rw [decryptWith_of_not_found (found?_of_not_offers hoffers)] at h
    cases h
    rfl

/-- Opening fails because keys are refused, or with an error that names the suite. -/
theorem suite?_of_decryptEnvelope (hs : s.BuiltIn)
    (hlength : e.nonce.length = e.suite.nonceLength)
    (h : (decryptEnvelope e s).1 = .error cause) :
    s.supply.refusal? e.suite = some cause ∨ cause.suite? = some e.suite := by
  rcases hpair : pairFor e.suite s with ⟨result, t⟩
  have ht : t.BuiltIn := ((along_pairFor e.suite).of_eq hpair).builtIn hs
  cases result with
  | error other =>
    rw [decryptEnvelope, Action.bind_of_error hpair] at h
    cases h
    exact .inl (pairFor_error_iff.1 (congrArg Prod.fst hpair))
  | ok pair =>
    rw [decryptEnvelope, Action.bind_of_ok hpair] at h
    exact .inr (suite?_of_decryptWith ht hlength h)

/-- An envelope is reported as tampered of its own suite, unless the supply says so. -/
theorem eq_of_tampered_envelope (hs : s.BuiltIn) {other : Suite}
    (h : (decryptEnvelope e s).1 = .error (.tampered other)) :
    s.supply.refusal? e.suite = some (.tampered other) ∨ other = e.suite := by
  rcases hpair : pairFor e.suite s with ⟨result, t⟩
  have ht : t.BuiltIn := ((along_pairFor e.suite).of_eq hpair).builtIn hs
  cases result with
  | error cause =>
    rw [decryptEnvelope, Action.bind_of_error hpair] at h
    cases h
    exact .inl (pairFor_error_iff.1 (congrArg Prod.fst hpair))
  | ok pair =>
    rw [decryptEnvelope, Action.bind_of_ok hpair] at h
    exact .inr (eq_of_tampered ht h)

end Service

end FieldSeal

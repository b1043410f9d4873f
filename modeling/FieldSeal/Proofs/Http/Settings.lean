import FieldSeal.Proofs.Envelope.Readers
import FieldSeal.Proofs.Http.RoundTrip
import FieldSeal.Proofs.Service.Missing
import FieldSeal.Proofs.Session.Spending
import FieldSeal.Proofs.Settings
import Mathlib.Data.List.Find

/-!
# Settings decide which suites work

**Theorem (`settings_decide_which_suites_work`).** Settings that were read keep their word: nothing
that is built from them fails for a reason that could have been seen when they were read. Which suites
work is decided by which variables hold keys (`lacking?`), at the start and after any session.

**Why.** Whatever is done with a service, its supply answers every suite with a pair
(`exists_pairFor`): with the keys of the settings, since a fixed supply never changes its answer, or
with keys of its own, of which it lacks none when it is asked. All of these keys have the lengths of
their kinds, so a sealer can only miss a key that no variable holds.
-/

namespace FieldSeal

namespace Settings

variable {environment : List (String × String)} {s : Settings} {c : Codec} {suite : Suite}
  {kind : KeyKind} {session : Session}

/-- The first key that the suite needs and no variable holds. If no variable holds any key, keys are
generated and none is lacking. -/
def lacking? (environment : List (String × String)) (suite : Suite) : Option KeyKind :=
  if KeyKind.all.any fun kind => isSet (keyValue? environment kind) then
    (KeyKind.requiredBy suite).find? fun kind => !isSet (keyValue? environment kind)
  else none

/-- A codec with the keys of the settings: any with the standard sealers, or that of the server. -/
inductive Built (s : Settings) : Codec → Prop
  | standard (policy : Policy) (masker : Masker) (host : Host) :
    Built s ⟨.standard policy (s.supply host).1 (s.supply host).2, masker⟩
  | server (host : Host) : Built s (Http.startWith s host)

/-! ## The supply -/

theorem supply_of_hasNoKeys (h : s.hasNoKeys) (host : Host) : (s.supply host).1 = .fresh := by
  rw [supply, if_pos h]

theorem supply_of_not_hasNoKeys (h : ¬s.hasNoKeys) (host : Host) :
    (s.supply host).1 = .fixed fun suite => .ok (s.pair suite) := by
  rw [supply, if_neg h]

/-- Keys are generated if and only if no variable holds one. -/
theorem supply_eq_fresh_iff (h : read environment = .ok s) (host : Host) :
    (s.supply host).1 = .fresh ↔ ∀ kind, isSet (keyValue? environment kind) = false := by
  rw [← hasNoKeys_iff h]
  refine ⟨fun hfresh => ?_, fun hnone => supply_of_hasNoKeys hnone host⟩
  by_contra hsome
  rw [supply_of_not_hasNoKeys hsome] at hfresh
  cases hfresh

theorem Built.builtIn (h : s.Built c) : c.service.BuiltIn := by
  cases h with
  | standard policy masker host => exact Http.builtIn_standard _ _ _
  | server host => exact (Http.Started.settings s host).builtIn

theorem Built.offers (h : s.Built c) (suite : Suite) : c.service.Offers suite := by
  have hstandard : ∀ policy supply host, (Service.standard policy supply host).Offers suite := by
    intro policy supply host
    right
    cases suite <;> rfl
  cases h with
  | standard policy masker host => exact hstandard _ _ _
  | server host => exact (Service.along_bindingFor s.suite _).offers suite (hstandard _ _ _)

theorem Built.supply (h : s.Built c) : ∃ host, c.service.supply = (s.supply host).1 := by
  cases h with
  | standard policy masker host => exact ⟨host, rfl⟩
  | server host => exact ⟨host, (Service.bindingFor_keeps s.suite _).1⟩

/-- The keys of the settings have the lengths of their kinds. -/
theorem sized_pair (h : read environment = .ok s) (suite : Suite) : (s.pair suite).Sized suite := by
  intro kind hkind key hslot
  obtain rfl := (KeyKind.mem_requiredBy_iff kind suite).1 hkind
  rw [slot_pair] at hslot
  exact ((keyFor_eq_some_iff h).1 hslot).1

theorem lacking?_of_hasNoKeys (h : read environment = .ok s) (hnone : s.hasNoKeys)
    (suite : Suite) : lacking? environment suite = none := by
  have hunset := (hasNoKeys_iff h).1 hnone
  rw [lacking?, if_neg]
  simp [hunset]

/-- What the pair of the settings lacks is what no variable holds. -/
theorem missing?_pair (h : read environment = .ok s) (hsome : ¬s.hasNoKeys) (suite : Suite) :
    (s.pair suite).missing? suite = lacking? environment suite := by
  have hset : KeyKind.all.any fun kind => isSet (keyValue? environment kind) := by
    rw [hasNoKeys_iff h] at hsome
    obtain ⟨kind, hkind⟩ := not_forall.1 hsome
    exact List.any_eq_true.2 ⟨kind, kind.mem_all, by simpa using hkind⟩
  rw [lacking?, if_pos hset, KeyPair.missing?]
  refine List.find?_congr fun kind hkind => ?_
  obtain rfl := (KeyKind.mem_requiredBy_iff kind suite).1 hkind
  rw [slot_pair, Bool.eq_iff_iff, Option.isNone_iff_eq_none, keyFor_eq_none_iff h,
    Bool.not_eq_true']

/-- A supply that generates goes on to do so, with keys of the right lengths. -/
theorem generates_run (h : session.BuiltIn) (hc : c.service.BuiltIn)
    (hsized : c.service.supply.Sized) (hgenerates : c.service.supply.Generates) :
    (session.run c).service.supply.Sized ∧ (session.run c).service.supply.Generates := by
  induction session generalizing c with
  | nil => exact ⟨hsized, hgenerates⟩
  | cons step session ih =>
    have hstep : step.2.BuiltIn := h step List.mem_cons_self
    have hrest : Session.BuiltIn session := fun other hother => h other (List.mem_cons_of_mem _ hother)
    have hspends := step.2.spends_run hc hsized
    exact ih hrest ((step.2.follows_run hstep c).builtIn hc) (hspends.sized hsized)
      (hspends.generates hgenerates)

/-- A suite is answered with a pair that lacks what no variable holds. -/
theorem exists_pairFor (h : read environment = .ok s) (hc : s.Built c) (hsession : session.BuiltIn)
    (suite : Suite) :
    ∃ pair, (Service.pairFor suite (session.run c).service).1 = .ok pair ∧
      pair.Sized suite ∧ pair.missing? suite = lacking? environment suite := by
  obtain ⟨host, hsupply⟩ := hc.supply
  by_cases hnone : s.hasNoKeys
  · rw [supply_of_hasNoKeys hnone] at hsupply
    have hsized : c.service.supply.Sized := by
      rw [hsupply]
      exact fun _ _ => nofun
    obtain ⟨hsized, hgenerates⟩ := generates_run hsession hc.builtIn hsized ⟨_, _, hsupply⟩
    obtain ⟨pair, hpair⟩ : ∃ pair,
        (Service.pairFor suite (session.run c).service).1 = .ok pair := by
      obtain ⟨ring, warned, hring⟩ := hgenerates
      rw [Service.pairFor, Action.on_apply, hring]
      exact ⟨_, rfl⟩
    have hfits : pair.fits suite := by
      rw [KeySupply.fits_iff_of_pairFor hsized hpair]
      obtain ⟨ring, warned, hring⟩ := hgenerates
      rw [hring]
      rfl
    refine ⟨pair, hpair, KeyPair.sized_of_fits hfits, ?_⟩
    rw [KeyPair.missing?_of_fits hfits, lacking?_of_hasNoKeys h hnone]
  · rw [supply_of_not_hasNoKeys hnone] at hsupply
    have hpair : c.service.supply.pair? suite = some (s.pair suite) := by
      rw [hsupply]
      exact KeySupply.pair?_fixed_iff.2 rfl
    have hkept := (session.follows_run hsession c).keys suite _ hpair
    exact ⟨s.pair suite, KeySupply.pairFor_of_pair? hkept _, sized_pair h suite,
      missing?_pair h hnone suite⟩

/-- Every slot of a pair from the supply holds the key that its variable spells, and nothing if the
variable holds none. -/
theorem pairFor_supply (h : read environment = .ok s) (hset : isSet (keyValue? environment kind))
    (host host' : Host) (suite : Suite) :
    ∃ pair, (KeySupply.pairFor suite ((s.supply host).1, host')).1 = .ok pair ∧
      (suite = .modern → pair.mac = none) ∧
      ∀ kind ∈ KeyKind.requiredBy suite,
        (pair.slot kind = none ↔ isSet (keyValue? environment kind) = false) ∧
        ∀ key, pair.slot kind = some key ↔
          key.bytes.length = kind.length ∧
            ∃ value, keyValue? environment kind = some value ∧ key.Written value := by
  have hsome : ¬s.hasNoKeys := by
    rw [hasNoKeys_iff h]
    intro hunset
    rw [hunset kind] at hset
    cases hset
  refine ⟨s.pair suite, ?_, ?_, fun kind hkind => ?_⟩
  · rw [supply_of_not_hasNoKeys hsome]
    rfl
  · rintro rfl
    rfl
  · obtain rfl := (KeyKind.mem_requiredBy_iff kind suite).1 hkind
    rw [slot_pair]
    exact ⟨keyFor_eq_none_iff h, fun key => keyFor_eq_some_iff h⟩

/-! ## The theorem -/

/-- **Settings decide which suites work.** A value that is set and spells no key of its kind keeps
settings from being read. Settings that were read keep their word:

- Their suite and keys, read once more, are the same.
- Keys are generated if and only if no variable holds one. Otherwise the supply answers every suite
  with the keys that the variables spell, and with none for a variable that is absent or blank.
- However a service with these settings was used before, sealing a text under the active suite
  reports the first key that the suite needs and no variable holds, if there is one, and otherwise
  fails only for a text that is too long for the cipher. Opening a text that denotes an envelope
  reports the first such key of the suite of the envelope, and otherwise fails only for what was
  tampered with or what the cipher cannot decrypt. -/
theorem settings_decide_which_suites_work (environment : List (String × String)) :
    (∀ kind value, keyValue? environment kind = some value → ¬Unicode.isBlankText value →
      (∀ key : SecretKey, key.bytes.length = kind.length → ¬key.Written value) →
      ∃ fault, read environment = .error fault) ∧
    ∀ s, read environment = .ok s →
      (Suite.ofCode (Unicode.trim s.activeMode) = .ok s.suite ∧
        ∀ kind, keyIn environment kind = .ok (s.keyFor kind)) ∧
      (∀ host, (s.supply host).1 = .fresh ↔
        ∀ kind, isSet (keyValue? environment kind) = false) ∧
      ((∃ kind, isSet (keyValue? environment kind)) → ∀ host host' suite,
        ∃ pair, (KeySupply.pairFor suite ((s.supply host).1, host')).1 = .ok pair ∧
          (suite = .modern → pair.mac = none) ∧
          ∀ kind ∈ KeyKind.requiredBy suite,
            (pair.slot kind = none ↔ isSet (keyValue? environment kind) = false) ∧
            ∀ key, pair.slot kind = some key ↔
              key.bytes.length = kind.length ∧
                ∃ value, keyValue? environment kind = some value ∧ key.Written value) ∧
      ∀ (c : Codec) (session : Session), s.Built c → session.BuiltIn →
        let service := (session.run c).service
        (∀ text suite, service.policy.ask.1 = suite →
          (∀ kind, lacking? environment suite = some kind →
            (Service.encrypt text service).1 = .error (.missingKey suite kind)) ∧
          (lacking? environment suite = none →
            (∃ e, (Service.encrypt text service).1 = .ok e) ∨
              suite.Overflows text ∧
                (Service.encrypt text service).1 = .error (.cipher suite))) ∧
        ∀ wire e, Envelope.parse wire = .ok e →
          (∀ kind, lacking? environment e.suite = some kind →
            (Service.decrypt wire service).1 = .error (.missingKey e.suite kind)) ∧
          (lacking? environment e.suite = none →
            (∃ text, (Service.decrypt wire service).1 = .ok text) ∨
              (Service.decrypt wire service).1 = .error (.tampered e.suite) ∨
              (Service.decrypt wire service).1 = .error (.cipher e.suite)) := by
  refine ⟨fun kind value => exists_error_of_bad_key, fun s h => ⟨of_read h,
    supply_eq_fresh_iff h, ?_, fun c session hc hsession => ?_⟩⟩
  · rintro ⟨kind, hset⟩
    exact pairFor_supply h hset
  intro service
  have hfollows := session.follows_run hsession c
  have hservice : service.BuiltIn := hfollows.builtIn hc.builtIn
  have hoffers : ∀ suite, service.Offers suite := fun suite =>
    hfollows.offers suite (hc.offers suite)
  refine ⟨fun text suite hsuite => ?_, fun wire e hparse => ?_⟩
  · subst hsuite
    obtain ⟨pair, hpair, hsized, hmissing⟩ :=
      exists_pairFor h hc hsession service.policy.ask.1
    obtain ⟨entropy, hencrypt⟩ := Service.encrypt_eq hservice (hoffers _) hpair text
    rw [hencrypt, ← hmissing]
    exact ⟨fun kind hkind => Sealer.encrypt_of_missing hsized hkind text entropy,
      fun hnone => Sealer.encrypt_of_complete hsized hnone text entropy⟩
  · obtain ⟨pair, hpair, hsized, hmissing⟩ := exists_pairFor h hc hsession e.suite
    have hcheck : Sealer.check e.suite e = .ok () :=
      Sealer.check_eq_ok_iff.2 ⟨rfl, (Envelope.parse_eq_ok_iff_denotes.1 hparse).length⟩
    rw [Service.decrypt_eq_of_pair hservice (hoffers _) hpair hparse, ← hmissing]
    exact ⟨fun kind => Sealer.decrypt_of_missing hcheck hsized,
      Sealer.decrypt_of_complete hcheck hsized⟩

/-- A server with a key for MODERN only, padded and between blanks. It cannot seal under GM, nor open
what names GM. A value that is no base64url is refused. -/
theorem one_key_serves_one_suite :
    ∃ s, read [("Modern_Key", " AQEBAQEBAQEBAQEBAQEBAQEBAQEBAQEBAQEBAQEBAQE=\t")] = .ok s ∧
      (KeySupply.pairFor .modern ((s.supply ⟨⟨fun _ => 0, 0⟩, []⟩).1, ⟨⟨fun _ => 0, 0⟩, []⟩)).1 =
        .ok ⟨some ⟨List.replicate 32 1⟩, none⟩ ∧
      (Service.encrypt "a"
          (Session.run [⟨_, .setPolicy (.always .gm)⟩]
            (Http.startWith s ⟨⟨fun _ => 0, 0⟩, []⟩)).service).1 =
        .error (.missingKey .gm .gmEncryption) ∧
      (Service.decrypt "_mask|GM|AAAAAAAAAAAAAAAAAAAAAA|||"
          (Session.run [⟨_, .setPolicy (.always .gm)⟩]
            (Http.startWith s ⟨⟨fun _ => 0, 0⟩, []⟩)).service).1 =
        .error (.missingKey .gm .gmEncryption) ∧
      ∃ fault, read [("GM_MAC_KEY", "?")] = .error fault := by
  have hread : (read [("Modern_Key", " AQEBAQEBAQEBAQEBAQEBAQEBAQEBAQEBAQEBAQEBAQE=\t")]).isOk := by
    decide +kernel
  have hvalue : keyValue? [("Modern_Key", " AQEBAQEBAQEBAQEBAQEBAQEBAQEBAQEBAQEBAQEBAQE=\t")]
      .modernEncryption = some " AQEBAQEBAQEBAQEBAQEBAQEBAQEBAQEBAQEBAQEBAQE=\t" := by
    decide +kernel
  have hwritten : SecretKey.Written " AQEBAQEBAQEBAQEBAQEBAQEBAQEBAQEBAQEBAQEBAQE=\t"
      ⟨List.replicate 32 1⟩ := by
    rw [SecretKey.written_iff, ← Base64Url.decode?_eq_some_iff]
    decide +kernel
  have hlacking : lacking? [("Modern_Key", " AQEBAQEBAQEBAQEBAQEBAQEBAQEBAQEBAQEBAQEBAQE=\t")] .gm =
      some .gmEncryption := by decide +kernel
  have hparse : Envelope.parse "_mask|GM|AAAAAAAAAAAAAAAAAAAAAA|||" =
      .ok ⟨.gm, List.replicate 16 0, [], []⟩ := by decide +kernel
  have hsession : Session.BuiltIn [⟨_, .setPolicy (.always .gm)⟩] := by
    simp [Session.BuiltIn, Operation.BuiltIn]
  have hbad : ∀ key : SecretKey, key.bytes.length = KeyKind.gmMac.length → ¬key.Written "?" := by
    have hnone : Base64Url.decode? (Unicode.trim "?") = none := by decide +kernel
    intro key _ h
    rw [SecretKey.written_iff, ← Base64Url.decode?_eq_some_iff, hnone] at h
    cases h
  obtain ⟨s, hs⟩ := except_isOk_iff.1 hread
  obtain ⟨-, hdecides⟩ := settings_decide_which_suites_work
    [("Modern_Key", " AQEBAQEBAQEBAQEBAQEBAQEBAQEBAQEBAQEBAQEBAQE=\t")]
  obtain ⟨-, -, hkeys, hworks⟩ := hdecides s hs
  obtain ⟨⟨encryption, mac⟩, hpair, hmac, hslots⟩ := hkeys ⟨.modernEncryption, by rw [hvalue]; decide⟩
    ⟨⟨fun _ => 0, 0⟩, []⟩ ⟨⟨fun _ => 0, 0⟩, []⟩ .modern
  obtain ⟨hencrypt, hdecrypt⟩ := hworks _ _ (.server ⟨⟨fun _ => 0, 0⟩, []⟩) hsession
  obtain ⟨hrefuse, -⟩ := settings_decide_which_suites_work [("GM_MAC_KEY", "?")]
  obtain rfl : encryption = some ⟨List.replicate 32 1⟩ :=
    ((hslots .modernEncryption (by decide)).2 _).2 ⟨rfl, _, hvalue, hwritten⟩
  obtain rfl : mac = none := hmac rfl
  exact ⟨s, hs, hpair, (hencrypt "a" .gm rfl).1 _ hlacking, (hdecrypt _ _ hparse).1 _ hlacking,
    hrefuse .gmMac "?" (by decide +kernel) (by decide) hbad⟩

end Settings

end FieldSeal

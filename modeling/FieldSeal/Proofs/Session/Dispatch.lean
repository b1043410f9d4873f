import FieldSeal.Proofs.Envelope.Readers
import FieldSeal.Proofs.Service.Binding
import FieldSeal.Proofs.Session.Basic

/-!
# Envelopes reach the sealer of their own suite

**Theorem (`envelopes_reach_their_own_sealer`).** No text passes for an envelope of both suites, and
no sealer opens an envelope of the other suite. A service whose sealers are built in, and a binding
with its registry, hand an envelope to the sealer of its own suite or to none, so what this sealer
checks about the form of an envelope never fails.

**Why.** The nonces of the suites differ in length, so a text under the code of the other suite is
refused (`parse_recoded`). The suite that `parse` gives an envelope is the one by which the sealer is
looked up, and with built-in sealers only, the sealer that is found is that of the suite.
-/

namespace FieldSeal

/-! ## Texts under another code -/

namespace Envelope

/-- The fields with the code of a suite. -/
def Fields.recoded (f : Fields) (suite : Suite) : Fields := { f with code := suite.code }

variable {text : String} {e : Envelope} {f : Fields} {suite : Suite}

theorem Fields.Clean.recoded (h : f.Clean) (suite : Suite) : (f.recoded suite).Clean := by
  intro part hpart
  rcases List.mem_cons.1 hpart with rfl | hpart
  · exact h _ List.mem_cons_self
  rcases List.mem_cons.1 hpart with rfl | hpart
  · show delimiter ∉ suite.code.toList
    cases suite <;> decide
  · exact h part (List.mem_cons_of_mem _ (List.mem_cons_of_mem _ hpart))

theorem nonceLength_ne {suite other : Suite} (h : other ≠ suite) :
    suite.nonceLength ≠ other.nonceLength := by
  cases suite <;> cases other <;> first | decide | exact absurd rfl h

/-- A text that denotes an envelope denotes none under the code of the other suite: its nonce has the
wrong length there. -/
theorem parse_recoded (hf : fields text = .ok f) (h : parse text = .ok e)
    (hother : suite ≠ e.suite) :
    parse (f.recoded suite).text = .error (.malformed .nonceLength) := by
  obtain ⟨hclean, -⟩ := fields_eq_ok_iff.1 hf
  obtain ⟨g, hg, -, hnonce, hlength, -⟩ := parse_eq_ok_iff.1 h
  obtain rfl : f = g := Except.ok.inj (hf.symm.trans hg)
  have hfields : fields (f.recoded suite).text = .ok (f.recoded suite) :=
    fields_eq_ok_iff.2 ⟨hclean.recoded suite, rfl⟩
  have hsuite : Suite.ofCode (f.recoded suite).code = .ok suite := ofCode_eq_ok_iff.2 rfl
  have hdecoded : decodeField (f.recoded suite).nonce = .ok e.nonce :=
    decodeField_eq_ok_iff.2 hnonce
  have hwrong : e.nonce.length ≠ suite.nonceLength := hlength ▸ nonceLength_ne hother
  rw [parse_eq_bind, hfields, except_ok_bind, hsuite, except_ok_bind, hdecoded, except_ok_bind,
    if_pos hwrong]

end Envelope

/-! ## Envelopes of another suite -/

namespace Sealer

variable {suite : Suite} {e : Envelope}

theorem decrypt_of_other_suite (h : e.suite ≠ suite) (pair : KeyPair) :
    (builtIn suite).decrypt pair e = .error (.malformed .otherSuite) := by
  rw [meets_decrypt suite pair e]
  exact .here (o := ⟨e.suite ≠ suite, _⟩) h

/-- Behind the check of its form, an envelope is not refused for it. -/
theorem not_malformed_of_check (h : check suite e = .ok ()) (pair : KeyPair)
    (cause : Malformation) : (builtIn suite).decrypt pair e ≠ .error (.malformed cause) := by
  intro hdecrypt
  obtain ⟨o, ho, hpresent, herror⟩ := ((meets_decrypt suite pair e _).1 hdecrypt).exists_mem
  have hform := (meets_check suite e).exists_ok_iff.1 ⟨(), h⟩
  simp only [obstacles, preliminaries, List.mem_append] at ho
  rcases ho with (ho | ho) | ho
  · exact hform o ho hpresent
  · obtain ⟨kind, -, ho⟩ := List.mem_flatMap.1 ho
    simp only [keyObstacles, List.mem_cons, List.not_mem_nil, or_false] at ho
    rcases ho with rfl | rfl <;> cases herror
  · simp only [cipherObstacles, List.mem_cons, List.not_mem_nil, or_false] at ho
    rcases ho with rfl | rfl <;> cases herror

end Sealer

/-! ## The sealer that is found -/

theorem Registry.BuiltIn.filed {r : Registry} (h : r.BuiltIn) : r.Filed := by
  intro suite sealer hsealer
  rw [h suite sealer hsealer, Sealer.suite_builtIn]

theorem Registry.BuiltIn.sealer? {r : Registry} (h : r.BuiltIn) {suite : Suite}
    (hsome : (r.sealer? suite).isSome) : r.sealer? suite = some (.builtIn suite) := by
  obtain ⟨sealer, hsealer⟩ := Option.isSome_iff_exists.1 hsome
  rw [hsealer, h suite sealer hsealer]

namespace Binding

variable {r : Registry} {e : Envelope} {text : String}

/-- Whatever it was bound to, a binding moves to the sealer of the suite that a text names. -/
theorem decryptWire_eq (hr : r.BuiltIn) (h : Envelope.parse text = .ok e) (pair : KeyPair)
    (b : Binding) :
    ((r.sealer? e.suite).isSome → decryptWire r pair text b =
      ((Sealer.builtIn e.suite).decrypt pair e, ⟨.builtIn e.suite⟩)) ∧
    (r.sealer? e.suite = none → decryptWire r pair text b = (.error (.unsupported e.suite), b)) := by
  have hfind := Registry.forEnvelope_of_peek hr.filed (Envelope.peek_of_parse h)
  refine ⟨fun hsome => ?_, fun hnone => ?_⟩
  · have hget : r.get e.suite = .ok (.builtIn e.suite) :=
      Registry.get_eq_ok_iff.2 (hr.sealer? hsome)
    simp only [decryptWire, h, hfind, hget]
  · have hget : r.get e.suite = .error (.unsupported e.suite) := by rw [Registry.get, hnone]
    simp only [decryptWire, h, hfind, hget]

end Binding

namespace Session

/-- **Envelopes reach the sealer of their own suite, or none.** Let a text denote an envelope.

- Under the code of the other suite the text is malformed. The sealer of the other suite does not
  support the text and refuses the envelope, whatever the keys.
- The form of the envelope is as its own sealer demands, which therefore refuses it for no fault of
  its form.
- After any session that registers built-in sealers only, the service opens the text with the sealer
  of its suite if it offers the suite, and otherwise with none. So does any binding with the registry,
  whatever it was bound to before. -/
theorem envelopes_reach_their_own_sealer (text : String) (e : Envelope)
    (h : Envelope.parse text = .ok e) :
    (∀ other, other ≠ e.suite →
      (∃ f, Envelope.fields text = .ok f ∧ f.text = text ∧
        Envelope.parse (f.recoded other).text = .error (.malformed .nonceLength)) ∧
      (Sealer.builtIn other).supports text = false ∧
      ∀ pair, (Sealer.builtIn other).decrypt pair e = .error (.malformed .otherSuite)) ∧
    Sealer.check e.suite e = .ok () ∧
    (∀ pair cause, (Sealer.builtIn e.suite).decrypt pair e ≠ .error (.malformed cause)) ∧
    ∀ (suites : List Suite) (policy : Policy) (supply : KeySupply) (host : Host)
      (session : Session), session.BuiltIn →
      let s := (session.run (start suites policy supply host)).service
      ((s.Offers e.suite → (Service.decrypt text s).1 =
          Service.openedBy (.builtIn e.suite) e s) ∧
        (¬s.Offers e.suite → (Service.decrypt text s).1 =
          (Service.pairFor e.suite s).1 >>= fun _ => .error (.unsupported e.suite))) ∧
      ∀ (pair : KeyPair) (b : Binding),
        ((s.registry.sealer? e.suite).isSome → Binding.decryptWire s.registry pair text b =
          ((Sealer.builtIn e.suite).decrypt pair e, ⟨.builtIn e.suite⟩)) ∧
        (s.registry.sealer? e.suite = none →
          Binding.decryptWire s.registry pair text b = (.error (.unsupported e.suite), b)) := by
  have hcheck : Sealer.check e.suite e = .ok () :=
    Sealer.check_eq_ok_iff.2 ⟨rfl, (Envelope.parse_eq_ok_iff_denotes.1 h).length⟩
  refine ⟨fun other hother => ⟨?_, ?_, fun pair => ?_⟩, hcheck,
    Sealer.not_malformed_of_check hcheck, ?_⟩
  · obtain ⟨f, hf⟩ := Envelope.exists_fields_of_parse h
    exact ⟨f, hf, (Envelope.fields_eq_ok_iff.1 hf).2, Envelope.parse_recoded hf h hother⟩
  · rw [← Bool.not_eq_true, Envelope.supports_iff_of_parse h, Sealer.suite_builtIn]
    exact hother
  · exact Sealer.decrypt_of_other_suite (Ne.symm hother) pair
  · intro suites policy supply host session hsession s
    have hs : s.BuiltIn :=
      (session.follows_run hsession _).builtIn (builtIn_start suites policy supply host)
    exact ⟨Service.decrypt_eq hs h, Binding.decryptWire_eq hs.registry h⟩

/-- An envelope of the GM suite under the code of the other one, and a binding to MODERN that opens
it after GM was registered. -/
theorem binding_moves_to_the_suite_of_a_text :
    Envelope.parse "_mask|GM|AAAAAAAAAAAAAAAAAAAAAA|||" =
        .ok ⟨.gm, List.replicate 16 0, [], []⟩ ∧
      Envelope.parse "_mask|MODERN|AAAAAAAAAAAAAAAAAAAAAA|||" =
        .error (.malformed .nonceLength) ∧
      Sealer.modern.supports "_mask|GM|AAAAAAAAAAAAAAAAAAAAAA|||" = false ∧
      Binding.decryptWire
          (run [⟨_, .put (.builtIn .gm)⟩]
            (start [.modern] (.always .modern) .fresh ⟨⟨fun _ => 0, 0⟩, []⟩)).service.registry
          {} "_mask|GM|AAAAAAAAAAAAAAAAAAAAAA|||" ⟨.modern⟩ =
        (.error (.missingKey .gm .gmEncryption), ⟨.gm⟩) := by
  have hparse : Envelope.parse "_mask|GM|AAAAAAAAAAAAAAAAAAAAAA|||" =
      .ok ⟨.gm, List.replicate 16 0, [], []⟩ := by decide +kernel
  have hfields : Envelope.fields "_mask|GM|AAAAAAAAAAAAAAAAAAAAAA|||" =
      .ok ⟨"GM", "AAAAAAAAAAAAAAAAAAAAAA", "", "", ""⟩ := by decide +kernel
  have hsession : BuiltIn [⟨_, .put (.builtIn .gm)⟩] := by simp [BuiltIn, Operation.BuiltIn]
  obtain ⟨hother, -, -, hservice⟩ := envelopes_reach_their_own_sealer _ _ hparse
  obtain ⟨⟨f, hf, -, hrecoded⟩, hsupports, -⟩ := hother .modern nofun
  obtain rfl := Except.ok.inj (hfields.symm.trans hf)
  obtain ⟨-, hwire⟩ := hservice [.modern] (.always .modern) .fresh ⟨⟨fun _ => 0, 0⟩, []⟩ _ hsession
  exact ⟨hparse, hrecoded, hsupports, ((hwire {} ⟨.modern⟩).1 rfl).trans rfl⟩

end Session

end FieldSeal

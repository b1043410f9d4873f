import FieldSeal.Proofs.Envelope.Wire
import FieldSeal.Proofs.Registry
import FieldSeal.Proofs.Sealer.Obstacle
import FieldSeal.Sealer.Plain

/-!
# The readers of envelope texts agree

**Theorem (`readers_agree`).** A text denotes an envelope exactly if it is one in every part
(`Denotes`). A text that denotes none is refused for the first thing that is wrong with it, in a fixed
order: the number of parts and the sentinel, the code, then the byte fields from left to right. The
looser readers never contradict `parse`: what denotes an envelope starts like one, names its suite,
shows a mask, and is supported by the sealers of its suite and by no others.

**Parts.** Everything is said of the parts of the text between its delimiters (`part`). The five
fields that `fields` yields are parts of the text (`fields_eq_ok_iff_part`), and each later reader
looks at one of them, so each has one obstacle of its own.
-/

namespace FieldSeal.Envelope

open Sealer (Obstacle Stops Meets)

/-! ## Parts -/

/-- The part of the text between two delimiters, counted from zero. -/
def part (text : String) (i : Nat) : String := (split text).getD i ""

/-- A text has five delimiters, and the sentinel in front of the first. -/
def Framed (text : String) : Prop := text.toList.count delimiter = 5 ∧ part text 0 = sentinel

variable {text : String} {e : Envelope} {f : Fields}

theorem length_split (text : String) : (split text).length = text.toList.count delimiter + 1 := by
  rw [split, Text.split, List.length_map, Text.length_splitChars]

/-- The fields of a text are its parts. -/
theorem fields_eq_ok_iff_part :
    fields text = .ok f ↔
      Framed text ∧ f = ⟨part text 1, part text 2, part text 3, part text 4, part text 5⟩ := by
  rw [fields_eq_ok_iff_split, Framed]
  refine ⟨?_, ?_⟩
  · intro h
    have hlength := length_split text
    rw [h] at hlength
    refine ⟨⟨(Nat.succ.inj hlength).symm, ?_⟩, ?_⟩
    · rw [part, h]
      rfl
    · simp only [part, h]
      rfl
  · rintro ⟨⟨hcount, hfirst⟩, rfl⟩
    have hlength : (split text).length = 6 := by rw [length_split, hcount]
    simp only [part] at hfirst ⊢
    match hsplit : split text, hlength with
    | [first, code, nonce, ciphertext, tag, mask], _ =>
      rw [hsplit] at hfirst
      have hfirst : first = sentinel := hfirst
      rw [hfirst]
      rfl

/-- The text denotes the envelope: it has five delimiters, the sentinel, the code of the suite, and
the bytes of the envelope in base64url, the nonce in the length of the suite. -/
structure Denotes (text : String) (e : Envelope) : Prop where
  framed : Framed text
  code : part text 1 = e.suite.code
  nonce : Base64Url.Spells (part text 2) e.nonce
  length : e.nonce.length = e.suite.nonceLength
  ciphertext : Base64Url.Spells (part text 3) e.ciphertext
  tag : Base64Url.Spells (part text 4) e.tag

/-- Parsing accepts exactly the texts that denote an envelope. -/
theorem parse_eq_ok_iff_denotes : parse text = .ok e ↔ Denotes text e := by
  rw [parse_eq_ok_iff]
  refine ⟨?_, ?_⟩
  · rintro ⟨f, hf, hcode, hnonce, hlength, hciphertext, htag⟩
    obtain ⟨hframed, rfl⟩ := fields_eq_ok_iff_part.1 hf
    exact {
      framed := hframed
      code := hcode
      nonce := Base64Url.decode?_eq_some_iff.1 hnonce
      length := hlength
      ciphertext := Base64Url.decode?_eq_some_iff.1 hciphertext
      tag := Base64Url.decode?_eq_some_iff.1 htag }
  · intro h
    exact ⟨_, fields_eq_ok_iff_part.2 ⟨h.framed, rfl⟩, h.code,
      Base64Url.decode?_eq_some_iff.2 h.nonce, h.length,
      Base64Url.decode?_eq_some_iff.2 h.ciphertext, Base64Url.decode?_eq_some_iff.2 h.tag⟩

/-! ## Refusals -/

/-- The part is no base64url. -/
def unreadable (field : String) : Obstacle :=
  ⟨∀ bytes, ¬Base64Url.Spells field bytes, .malformed .base64⟩

/-- What can be wrong with a text, in the order in which it counts. -/
def readingObstacles (text : String) : List Obstacle :=
  [⟨¬Framed text, .malformed .fieldCount⟩,
    ⟨∀ suite, part text 1 ≠ Suite.code suite, .unknownSuite (part text 1)⟩,
    unreadable (part text 2),
    ⟨∃ suite bytes, part text 1 = Suite.code suite ∧ Base64Url.Spells (part text 2) bytes ∧
      bytes.length ≠ suite.nonceLength, .malformed .nonceLength⟩,
    unreadable (part text 3), unreadable (part text 4)]

theorem meets_fields (text : String) :
    Meets [⟨¬Framed text, .malformed .fieldCount⟩] (fields text) := by
  refine Meets.singleton (fun f h => ?_) fun error h => ⟨fun hframed => ?_, ?_⟩
  · exact not_not_intro (fields_eq_ok_iff_part.1 h).1
  · rw [fields_eq_ok_iff_part.2 ⟨hframed, rfl⟩] at h
    cases h
  · unfold fields at h
    split at h
    · split at h
      · cases h
      · cases h
        rfl
    · cases h
      rfl

theorem meets_ofCode (code : String) :
    Meets [⟨∀ suite, code ≠ Suite.code suite, .unknownSuite code⟩] (Suite.ofCode code) := by
  refine Meets.singleton (fun suite h => ?_) fun error h => ⟨fun suite hcode => ?_, ?_⟩
  · exact fun hother => hother suite (ofCode_eq_ok_iff.1 h)
  · rw [ofCode_eq_ok_iff.2 hcode] at h
    cases h
  · unfold Suite.ofCode at h
    split at h <;> cases h
    rfl

theorem meets_decodeField (field : String) : Meets [unreadable field] (decodeField field) := by
  refine Meets.singleton (fun bytes h => ?_) fun error h => ⟨fun bytes hspells => ?_, ?_⟩
  · have hspells := Base64Url.decode?_eq_some_iff.1 (decodeField_eq_ok_iff.1 h)
    exact fun hnone => hnone bytes hspells
  · rw [decodeField_eq_ok_iff.2 (Base64Url.decode?_eq_some_iff.2 hspells)] at h
    cases h
  · unfold decodeField at h
    split at h <;> cases h
    rfl

theorem suite_eq_of_code {suite suite' : Suite} (h : suite.code = suite'.code) : suite = suite' :=
  Except.ok.inj ((ofCode_eq_ok_iff.2 rfl).symm.trans (ofCode_eq_ok_iff.2 h))

/-- Parsing, step by step: the parts, the code, the nonce and its length, the other byte fields. -/
theorem parse_eq_bind (text : String) :
    parse text = fields text >>= fun f => Suite.ofCode f.code >>= fun suite =>
      decodeField f.nonce >>= fun nonce =>
        if nonce.length ≠ suite.nonceLength then .error (.malformed .nonceLength)
        else decodeField f.ciphertext >>= fun ciphertext => decodeField f.tag >>= fun tag =>
          .ok { suite, nonce, ciphertext, tag } := rfl

/-- A text is refused for the first thing that is wrong with it. -/
theorem meets_parse (text : String) : Meets (readingObstacles text) (parse text) := by
  rw [parse_eq_bind]
  refine (meets_fields text).bind fun f hf => ?_
  obtain ⟨-, rfl⟩ := fields_eq_ok_iff_part.1 hf
  refine (meets_ofCode _).bind fun suite hsuite => ?_
  refine (meets_decodeField _).bind fun nonce hnonce => ?_
  have hcode := ofCode_eq_ok_iff.1 hsuite
  have hspells := Base64Url.decode?_eq_some_iff.1 (decodeField_eq_ok_iff.1 hnonce)
  refine Meets.guarded (o := ⟨_, .malformed .nonceLength⟩) ⟨fun hlength => ?_, ?_⟩ fun _ => ?_
  · exact ⟨suite, nonce, hcode, hspells, hlength⟩
  · rintro ⟨other, bytes, hother, hbytes, hlength⟩
    obtain rfl : other = suite := suite_eq_of_code (hother.symm.trans hcode)
    rwa [hspells.unique hbytes]
  · refine (meets_decodeField _).bind fun ciphertext _ => ?_
    exact (meets_decodeField _).bind fun tag _ => Meets.ok _

/-! ## The looser readers -/

/-- A text that starts like an envelope has a part for the code. -/
theorem exists_split_of_isEnvelope (h : isEnvelope text) :
    ∃ rest, split text = sentinel :: part text 1 :: rest := by
  rw [isEnvelope, List.isPrefixOf_iff_prefix] at h
  obtain ⟨tail, htail⟩ := h
  have hsentinel : delimiter ∉ sentinel.toList := by decide
  have hchars : Text.splitChars delimiter text.toList =
      sentinel.toList :: Text.splitChars delimiter tail := by
    rw [← htail, List.append_assoc]
    exact Text.splitChars_append hsentinel tail
  have hsplit : split text = sentinel :: (Text.splitChars delimiter tail).map String.ofList := by
    rw [split, Text.split, hchars, List.map_cons, String.ofList_toList]
  obtain ⟨code, parts, hparts⟩ := List.exists_cons_of_ne_nil
    (Text.splitChars_ne_nil delimiter tail)
  rw [hparts, List.map_cons] at hsplit
  have hcode : part text 1 = String.ofList code := by
    rw [part, hsplit]
    rfl
  exact ⟨parts.map String.ofList, by rw [hcode, hsplit]⟩

/-- The suite that a text names is that of its code. -/
theorem peek_of_isEnvelope (h : isEnvelope text) : peek text = Suite.ofCode (part text 1) := by
  obtain ⟨rest, hsplit⟩ := exists_split_of_isEnvelope h
  rw [peek, if_pos h, hsplit]

theorem peek_of_not_isEnvelope (h : ¬isEnvelope text) :
    peek text = .error (.malformed .sentinel) := if_neg h

theorem displayMask_eq_some_iff {mask : String} :
    displayMask text = some mask ↔ ∃ f, fields text = .ok f ∧ f.mask = mask := by
  unfold displayMask
  cases fields text with
  | error cause => simp
  | ok f => simp

theorem peek_of_parse (h : parse text = .ok e) : peek text = .ok e.suite := by
  rw [peek_of_isEnvelope (isEnvelope_of_parse h), (parse_eq_ok_iff_denotes.1 h).code]
  exact ofCode_eq_ok_iff.2 rfl

/-- A text starts like an envelope unless the reader of its suite finds it malformed. -/
theorem isEnvelope_iff_peek :
    isEnvelope text ↔ ∀ cause, peek text ≠ .error (.malformed cause) := by
  refine ⟨fun h cause hpeek => ?_, fun h => ?_⟩
  · rw [peek_of_isEnvelope h] at hpeek
    obtain ⟨o, ho, -, herror⟩ := ((meets_ofCode _ _).1 hpeek).exists_mem
    cases List.mem_singleton.1 ho
    cases herror
  · by_contra hnot
    exact h _ (peek_of_not_isEnvelope hnot)

theorem supports_iff_of_parse (h : parse text = .ok e) (s : Sealer) :
    s.supports text ↔ s.suite = e.suite := by
  rw [Sealer.supports_iff, peek_of_parse h, Except.ok.injEq, eq_comm]

/-- **The readers of envelope texts agree.**

- Parsing gives an envelope exactly if the text denotes it, and otherwise the error of the first
  thing that is wrong with the text.
- What is parsed starts like an envelope, names the suite of the envelope and shows a mask. It is
  supported by the sealers of that suite alone, and every registry finds for it what is registered
  for the suite.
- A text that shows a mask starts like an envelope. A text starts like an envelope if and only if
  the reader of its suite does not find it malformed. -/
theorem readers_agree (text : String) :
    (∀ e, parse text = .ok e ↔ Denotes text e) ∧
    (∀ error, parse text = .error error ↔ Stops (readingObstacles text) error) ∧
    (∀ e, parse text = .ok e →
      isEnvelope text ∧ peek text = .ok e.suite ∧ (∃ mask, displayMask text = some mask) ∧
      (∀ s : Sealer, s.supports text ↔ s.suite = e.suite) ∧
      ∀ sealers : List Sealer, (Registry.ofSealers sealers).forEnvelope text =
        (Registry.ofSealers sealers).get e.suite) ∧
    ((∃ mask, displayMask text = some mask) → isEnvelope text) ∧
    (isEnvelope text ↔ ∀ cause, peek text ≠ .error (.malformed cause)) := by
  refine ⟨fun e => parse_eq_ok_iff_denotes, meets_parse text, fun e h => ?_, ?_,
    isEnvelope_iff_peek⟩
  · obtain ⟨f, hf⟩ := exists_fields_of_parse h
    refine ⟨isEnvelope_of_parse h, peek_of_parse h, ⟨f.mask, displayMask_of_fields hf⟩,
      supports_iff_of_parse h, fun sealers => ?_⟩
    exact Registry.forEnvelope_of_peek (Registry.filed_ofSealers sealers) (peek_of_parse h)
  · rintro ⟨mask, hmask⟩
    obtain ⟨f, hf, -⟩ := displayMask_eq_some_iff.1 hmask
    exact isEnvelope_of_fields hf

/-- An envelope with empty byte fields behind a padded nonce, in a registry that was overwritten. A
text whose code is unknown is refused for that, although its byte fields are no base64. -/
theorem bare_envelope_is_read_alike :
    parse "_mask|GM|AAAAAAAAAAAAAAAAAAAAAA==|||é" = .ok ⟨.gm, List.replicate 16 0, [], []⟩ ∧
      Sealer.modern.supports "_mask|GM|AAAAAAAAAAAAAAAAAAAAAA==|||é" = false ∧
      (Registry.ofSealers [.modern, .plain "a" .gm "a", .gm]).forEnvelope
          "_mask|GM|AAAAAAAAAAAAAAAAAAAAAA==|||é" = .ok .gm ∧
      parse "_mask|gm|?|?|?|" = .error (.unknownSuite "gm") ∧
      Stops (readingObstacles "_mask|gm|?|?|?|") (.unknownSuite "gm") ∧
      isEnvelope "_mask|" ∧ ∀ cause, peek "_mask|" ≠ .error (.malformed cause) := by
  have hparse : parse "_mask|GM|AAAAAAAAAAAAAAAAAAAAAA==|||é" =
      .ok ⟨.gm, List.replicate 16 0, [], []⟩ := by decide +kernel
  have hunknown : parse "_mask|gm|?|?|?|" = .error (.unknownSuite "gm") := by decide +kernel
  have hstart : isEnvelope "_mask|" := by decide
  obtain ⟨-, -, hread, -, -⟩ := readers_agree "_mask|GM|AAAAAAAAAAAAAAAAAAAAAA==|||é"
  obtain ⟨-, -, -, hsupports, hfind⟩ := hread _ hparse
  obtain ⟨-, hrefuse, -⟩ := readers_agree "_mask|gm|?|?|?|"
  obtain ⟨-, -, -, -, hprefix⟩ := readers_agree "_mask|"
  refine ⟨hparse, ?_, (hfind _).trans rfl, hunknown, (hrefuse _).1 hunknown, hstart,
    hprefix.1 hstart⟩
  rw [← Bool.not_eq_true, hsupports]
  exact Suite.noConfusion

end FieldSeal.Envelope

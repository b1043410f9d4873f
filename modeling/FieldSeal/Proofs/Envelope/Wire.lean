import FieldSeal.Envelope.Wire
import FieldSeal.Proofs.Action
import FieldSeal.Proofs.Bytes.Base64Url
import FieldSeal.Proofs.Text.Split

/-!
# The text form of envelopes, both directions

**Theorem (`text_form_round_trip`).** Writing an envelope with a mask fails exactly when the mask
holds the delimiter, and what is written is read back as the same envelope and the same mask. A text
that is read and written again with its own mask loses nothing but the padding of its byte fields.
Hence two texts denote one envelope exactly when they differ at most in padding and mask.

**Fields.** A text with the right sentinel and number of parts corresponds to five fields without
delimiters (`fields_eq_ok_iff`). Everything else is said of the fields: `written` are those of an
envelope, `parse_eq_ok_iff` says which fields denote an envelope, and
`unpadded_eq_written_of_parse` that they are those that would be written, padding aside.
-/

namespace FieldSeal.Envelope

/-! ## Fields -/

namespace Fields

/-- The text of fields. -/
def text (f : Fields) : String :=
  sentinel ++ "|" ++ f.code ++ "|" ++ f.nonce ++ "|" ++ f.ciphertext ++ "|" ++ f.tag ++ "|" ++ f.mask

/-- The parts between the delimiters, in order. -/
def parts (f : Fields) : List String := [sentinel, f.code, f.nonce, f.ciphertext, f.tag, f.mask]

/-- No field holds the delimiter. -/
def Clean (f : Fields) : Prop := ∀ part ∈ f.parts, delimiter ∉ part.toList

/-- The fields with the padding of the byte fields removed. -/
def unpadded (f : Fields) : Fields :=
  { f with
    nonce := Base64Url.trimPadding f.nonce
    ciphertext := Base64Url.trimPadding f.ciphertext
    tag := Base64Url.trimPadding f.tag }

/-- What is left of the fields without padding and mask. -/
def core (f : Fields) : Fields := { f.unpadded with mask := "" }

theorem toList_text (f : Fields) :
    f.text.toList = [delimiter].intercalate (f.parts.map String.toList) := by
  have hbar : ("|" : String).toList = [delimiter] := rfl
  simp only [text, parts, String.toList_append, hbar, List.map_cons, List.map_nil,
    List.intercalate_cons_cons, List.intercalate_singleton, List.append_assoc]

end Fields

theorem map_toList_split (text : String) :
    (split text).map String.toList = Text.splitChars delimiter text.toList := by
  simp [split, Text.split]

/-- A text splits into the parts of fields when it is their text and they hold no delimiter. -/
theorem split_eq_parts_iff {text : String} {f : Fields} :
    split text = f.parts ↔ f.Clean ∧ f.text = text := by
  have hparts : split text = f.parts ↔
      Text.splitChars delimiter text.toList = f.parts.map String.toList := by
    rw [← map_toList_split]
    exact (List.map_injective_iff.2 fun _ _ => String.toList_inj.1).eq_iff.symm
  rw [hparts, Text.splitChars_eq_iff, ← Fields.toList_text, String.toList_inj]
  refine ⟨?_, ?_⟩
  · intro h
    obtain ⟨-, hclean, htext⟩ := h
    exact ⟨fun part hpart => hclean _ (List.mem_map_of_mem hpart), htext⟩
  · intro h
    obtain ⟨hclean, htext⟩ := h
    refine ⟨by simp [Fields.parts], fun part hpart => ?_, htext⟩
    obtain ⟨p, hp, rfl⟩ := List.mem_map.1 hpart
    exact hclean p hp

theorem fields_eq_ok_iff_split {text : String} {f : Fields} :
    fields text = .ok f ↔ split text = f.parts := by
  unfold fields
  split
  · next first code nonce ciphertext tag mask hsplit =>
    rw [hsplit]
    obtain ⟨code', nonce', ciphertext', tag', mask'⟩ := f
    by_cases hfirst : first = sentinel
    · simp [hfirst, Fields.parts]
    · simp [hfirst, Fields.parts]
  · next hsplit =>
    refine ⟨?_, ?_⟩
    · intro h
      cases h
    · intro h
      exact absurd h (hsplit _ _ _ _ _ _)

theorem fields_eq_ok_iff {text : String} {f : Fields} :
    fields text = .ok f ↔ f.Clean ∧ f.text = text := by
  rw [fields_eq_ok_iff_split, split_eq_parts_iff]

/-! ## Written and denoted fields -/

/-- The fields in which an envelope is written with a mask. -/
def written (e : Envelope) (mask : String) : Fields where
  code := e.suite.code
  nonce := Base64Url.encode e.nonce
  ciphertext := Base64Url.encode e.ciphertext
  tag := Base64Url.encode e.tag
  mask := mask

theorem text_written (e : Envelope) (mask : String) : (e.written mask).text = e.toWire ++ mask :=
  rfl

theorem clean_written (e : Envelope) {mask : String} (h : delimiter ∉ mask.toList) :
    (e.written mask).Clean := by
  have hsentinel : delimiter ∉ sentinel.toList := by decide
  have hcode : delimiter ∉ e.suite.code.toList := by cases e.suite <;> decide
  simp only [Fields.Clean, Fields.parts, written, List.mem_cons, List.not_mem_nil, or_false]
  rintro part (rfl | rfl | rfl | rfl | rfl | rfl)
  · exact hsentinel
  · exact hcode
  · exact Base64Url.not_mem_encode e.nonce
  · exact Base64Url.not_mem_encode e.ciphertext
  · exact Base64Url.not_mem_encode e.tag
  · exact h

theorem decodeField_eq_ok_iff {field : String} {bytes : List UInt8} :
    decodeField field = .ok bytes ↔ Base64Url.decode? field = some bytes := by
  unfold decodeField
  split
  · next h => rw [h, Except.ok.injEq, Option.some.injEq]
  · next h =>
    rw [h]
    constructor <;> intro h' <;> cases h'

theorem ofCode_eq_ok_iff {code : String} {suite : Suite} :
    Suite.ofCode code = .ok suite ↔ code = suite.code := by
  refine ⟨?_, ?_⟩
  · intro h
    unfold Suite.ofCode at h
    split at h
    · next found hfound =>
      cases h
      exact (eq_of_beq (List.find?_some (p := fun s : Suite => s.code == code) hfound)).symm
    · cases h
  · intro h
    obtain rfl := h
    rw [Suite.ofCode, Suite.ofCode?_code]

/-- Which fields denote an envelope. -/
theorem parse_eq_ok_iff {text : String} {e : Envelope} :
    parse text = .ok e ↔
      ∃ f, fields text = .ok f ∧ f.code = e.suite.code ∧
        Base64Url.decode? f.nonce = some e.nonce ∧ e.nonce.length = e.suite.nonceLength ∧
        Base64Url.decode? f.ciphertext = some e.ciphertext ∧
        Base64Url.decode? f.tag = some e.tag := by
  simp only [← ofCode_eq_ok_iff, ← decodeField_eq_ok_iff]
  unfold parse
  simp only [except_bind_eq_ok_iff]
  refine ⟨?_, ?_⟩
  · intro h
    obtain ⟨f, hf, suite, hsuite, nonce, hnonce, h⟩ := h
    split at h
    · cases h
    · next hlen =>
      obtain ⟨ciphertext, hc, h⟩ := except_bind_eq_ok_iff.1 h
      obtain ⟨tag, ht, h⟩ := except_bind_eq_ok_iff.1 h
      cases h
      exact ⟨f, hf, hsuite, hnonce, Decidable.not_not.1 hlen, hc, ht⟩
  · intro h
    obtain ⟨f, hf, hsuite, hnonce, hlen, hc, ht⟩ := h
    refine ⟨f, hf, _, hsuite, _, hnonce, ?_⟩
    rw [if_neg (Decidable.not_not.2 hlen)]
    exact except_bind_eq_ok_iff.2 ⟨_, hc, except_bind_eq_ok_iff.2 ⟨_, ht, rfl⟩⟩

theorem displayMask_of_fields {text : String} {f : Fields} (h : fields text = .ok f) :
    displayMask text = some f.mask := by
  rw [displayMask, h]

/-- A text with the right parts starts like an envelope. -/
theorem isEnvelope_of_fields {text : String} {f : Fields} (h : fields text = .ok f) :
    isEnvelope text := by
  obtain ⟨-, rfl⟩ := fields_eq_ok_iff.1 h
  have hprefix : sentinel.toList ++ [delimiter] <+: f.text.toList := by
    rw [Fields.toList_text]
    simp only [Fields.parts, List.map_cons, List.map_nil, List.intercalate_cons_cons]
    rw [← List.append_assoc]
    exact List.prefix_append _ _
  rw [isEnvelope, List.isPrefixOf_iff_prefix]
  exact hprefix

/-! ## Writing and reading -/

/-- What was written is read back. -/
theorem fields_written (e : Envelope) {mask : String} (h : delimiter ∉ mask.toList) :
    fields (e.toWire ++ mask) = .ok (e.written mask) :=
  fields_eq_ok_iff.2 ⟨clean_written e h, text_written e mask⟩

theorem parse_toWire_append {e : Envelope} (hnonce : e.nonce.length = e.suite.nonceLength)
    {mask : String} (h : delimiter ∉ mask.toList) : parse (e.toWire ++ mask) = .ok e :=
  parse_eq_ok_iff.2 ⟨e.written mask, fields_written e h, rfl, Base64Url.decode?_encode e.nonce,
    hnonce, Base64Url.decode?_encode e.ciphertext, Base64Url.decode?_encode e.tag⟩

theorem withMask_eq_ok {mask : String} (h : delimiter ∉ mask.toList) (e : Envelope) :
    e.withMask mask = .ok (e.toWire ++ mask) := if_neg h

/-- A text that was written with a mask denotes the envelope. -/
theorem parse_of_withMask {e : Envelope} {mask text : String}
    (hnonce : e.nonce.length = e.suite.nonceLength) (h : e.withMask mask = .ok text) :
    parse text = .ok e := by
  unfold withMask at h
  split at h
  · cases h
  · next hmask =>
    cases h
    exact parse_toWire_append hnonce hmask

theorem parse_toWire {e : Envelope} (hnonce : e.nonce.length = e.suite.nonceLength) :
    parse e.toWire = .ok e := by
  have h := @parse_toWire_append e hnonce "" (by decide)
  rwa [String.append_empty] at h

/-- The fields of a text that denotes an envelope are those that are written, padding aside. -/
theorem unpadded_eq_written_of_parse {text : String} {e : Envelope} {f : Fields}
    (hf : fields text = .ok f) (h : parse text = .ok e) : f.unpadded = e.written f.mask := by
  obtain ⟨g, hg, hcode, hnonce, -, hc, ht⟩ := parse_eq_ok_iff.1 h
  rw [hf, Except.ok.injEq] at hg
  subst hg
  rw [Fields.unpadded, written, hcode, Base64Url.encode_of_decode? hnonce,
    Base64Url.encode_of_decode? hc, Base64Url.encode_of_decode? ht]

theorem isEnvelope_of_parse {text : String} {e : Envelope} (h : parse text = .ok e) :
    isEnvelope text := by
  obtain ⟨f, hf, -⟩ := parse_eq_ok_iff.1 h
  exact isEnvelope_of_fields hf

theorem ne_empty_of_parse {text : String} {e : Envelope} (h : parse text = .ok e) : text ≠ "" := by
  have henvelope := isEnvelope_of_parse h
  intro htext
  rw [htext] at henvelope
  revert henvelope
  decide

theorem exists_fields_of_parse {text : String} {e : Envelope} (h : parse text = .ok e) :
    ∃ f, fields text = .ok f := by
  obtain ⟨f, hf, -⟩ := parse_eq_ok_iff.1 h
  exact ⟨f, hf⟩

theorem written_injective {e e' : Envelope} {mask : String}
    (h : e.written mask = e'.written mask) : e = e' := by
  obtain ⟨suite, nonce, ciphertext, tag⟩ := e
  obtain ⟨suite', nonce', ciphertext', tag'⟩ := e'
  simp only [written, Fields.mk.injEq, and_true] at h
  obtain ⟨hcode, hnonce, hc, ht⟩ := h
  have hsuite : suite = suite' := by
    rw [← Option.some.injEq, ← Suite.ofCode?_code, hcode, Suite.ofCode?_code]
  rw [hsuite, Base64Url.encode_injective hnonce, Base64Url.encode_injective hc,
    Base64Url.encode_injective ht]

/-- Two texts whose fields are the same but for the padding of the byte fields and the mask. -/
def Alike (text text' : String) : Prop :=
  ∃ f f', fields text = .ok f ∧ fields text' = .ok f' ∧ f.core = f'.core

theorem core_eq_written_of_parse {text : String} {e : Envelope} {f : Fields}
    (hf : fields text = .ok f) (h : parse text = .ok e) : f.core = e.written "" := by
  rw [Fields.core, unpadded_eq_written_of_parse hf h]
  rfl

theorem eq_iff_alike_of_parse {text text' : String} {e e' : Envelope} (h : parse text = .ok e)
    (h' : parse text' = .ok e') : e = e' ↔ Alike text text' := by
  obtain ⟨f, hf⟩ := exists_fields_of_parse h
  obtain ⟨f', hf'⟩ := exists_fields_of_parse h'
  have hcore := core_eq_written_of_parse hf h
  have hcore' := core_eq_written_of_parse hf' h'
  refine ⟨?_, ?_⟩
  · intro h
    obtain rfl := h
    exact ⟨f, f', hf, hf', hcore.trans hcore'.symm⟩
  · intro h
    obtain ⟨g, g', hg, hg', hgg'⟩ := h
    rw [hf, Except.ok.injEq] at hg
    rw [hf', Except.ok.injEq] at hg'
    subst hg hg'
    rw [hcore, hcore'] at hgg'
    exact written_injective hgg'

/-- **The text form, both directions.**

- Writing an envelope with a mask is refused if and only if the mask holds the delimiter. What is
  written otherwise denotes the envelope and shows the mask. Without a mask the same holds of the
  empty one.
- A text that denotes an envelope is the text of its fields. Written again with the mask that the
  text shows, the envelope gives the same text without the padding of its byte fields.
- Two texts that denote envelopes denote the same one if and only if they are the same but for
  padding and mask. -/
theorem text_form_round_trip :
    (∀ e : Envelope, e.nonce.length = e.suite.nonceLength →
      (∀ mask : String,
        (e.withMask mask = .error (.malformed .maskDelimiter) ↔ delimiter ∈ mask.toList) ∧
        (delimiter ∉ mask.toList → ∃ text, e.withMask mask = .ok text ∧
          parse text = .ok e ∧ displayMask text = some mask)) ∧
      parse e.toWire = .ok e ∧ displayMask e.toWire = some "") ∧
    (∀ (text : String) (e : Envelope), parse text = .ok e →
      ∃ f, fields text = .ok f ∧ f.text = text ∧ displayMask text = some f.mask ∧
        e.withMask f.mask = .ok f.unpadded.text) ∧
    (∀ (text text' : String) (e e' : Envelope), parse text = .ok e → parse text' = .ok e' →
      (e = e' ↔ Alike text text')) := by
  refine ⟨fun e hnonce => ⟨fun mask => ⟨?_, fun hmask => ?_⟩, parse_toWire hnonce, ?_⟩,
    fun text e h => ?_, fun text text' e e' => eq_iff_alike_of_parse⟩
  · refine ⟨?_, ?_⟩
    · intro h
      by_contra hmask
      rw [withMask_eq_ok hmask] at h
      cases h
    · intro hmask
      exact if_pos hmask
  · exact ⟨_, withMask_eq_ok hmask e, parse_toWire_append hnonce hmask,
      displayMask_of_fields (fields_written e hmask)⟩
  · have hfields := @fields_written e "" (by decide)
    rw [String.append_empty] at hfields
    exact displayMask_of_fields hfields
  · obtain ⟨f, hf⟩ := exists_fields_of_parse h
    obtain ⟨hclean, htext⟩ := fields_eq_ok_iff.1 hf
    have hmask : delimiter ∉ f.mask.toList := hclean _ (by simp [Fields.parts])
    refine ⟨f, hf, htext, displayMask_of_fields hf, ?_⟩
    rw [withMask_eq_ok hmask, ← text_written, ← unpadded_eq_written_of_parse hf h]

/-- A padded and masked text, and what the theorem says of it. -/
theorem padded_text_denotes_its_unpadded_form :
    parse "_mask|MODERN|AAAAAAAAAAAAAAAA|QQ==|Qg=|a*b" =
        .ok ⟨.modern, List.replicate 12 0, [65], [66]⟩ ∧
      parse "_mask|MODERN|AAAAAAAAAAAAAAAA|QQ|Qg|" =
        .ok ⟨.modern, List.replicate 12 0, [65], [66]⟩ ∧
      (∃ f, fields "_mask|MODERN|AAAAAAAAAAAAAAAA|QQ==|Qg=|a*b" = .ok f ∧ f.mask = "a*b" ∧
        withMask ⟨.modern, List.replicate 12 0, [65], [66]⟩ "a*b" = .ok f.unpadded.text) ∧
      Alike "_mask|MODERN|AAAAAAAAAAAAAAAA|QQ==|Qg=|a*b" "_mask|MODERN|AAAAAAAAAAAAAAAA|QQ|Qg|" ∧
      (∃ text, withMask ⟨.modern, List.replicate 12 0, [65], [66]⟩ "**" = .ok text ∧
        displayMask text = some "**") := by
  have hpadded : parse "_mask|MODERN|AAAAAAAAAAAAAAAA|QQ==|Qg=|a*b" =
      .ok ⟨.modern, List.replicate 12 0, [65], [66]⟩ := by decide +kernel
  have hbare : parse "_mask|MODERN|AAAAAAAAAAAAAAAA|QQ|Qg|" =
      .ok ⟨.modern, List.replicate 12 0, [65], [66]⟩ := by decide +kernel
  have hmask : displayMask "_mask|MODERN|AAAAAAAAAAAAAAAA|QQ==|Qg=|a*b" = some "a*b" := by
    decide +kernel
  obtain ⟨hwrite, hread, halike⟩ := text_form_round_trip
  refine ⟨hpadded, hbare, ?_, (halike _ _ _ _ hpadded hbare).1 rfl, ?_⟩
  · obtain ⟨f, hf, -, hshown, htext⟩ := hread _ _ hpadded
    rw [hmask, Option.some.injEq] at hshown
    rw [← hshown] at htext
    exact ⟨f, hf, hshown.symm, htext⟩
  · obtain ⟨hmasked, -⟩ := hwrite ⟨.modern, List.replicate 12 0, [65], [66]⟩ rfl
    obtain ⟨text, htext, -, hshown⟩ := (hmasked "**").2 (by decide)
    exact ⟨text, htext, hshown⟩

end FieldSeal.Envelope

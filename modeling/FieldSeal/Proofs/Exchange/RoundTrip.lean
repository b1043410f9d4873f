import FieldSeal.Exchange.Message
import FieldSeal.Proofs.Exchange.FieldSpec

/-!
# Messages are read from their texts

**Theorem (`Request.readStart_write`, `Answer.readAll_write`).** A message is read from the text as
which it is written, if its document is fit and has no fractions, and the numbers of its
specifications have 64 bits.

All messages that are read are like this except for the fractions (`Request.sound_of_readStart`). So
a message can be read, changed, written and read again.
-/

namespace FieldSeal

open Json

namespace Exchange

/-- The message can be read again, if its document has no fractions. -/
structure Request.Sound (r : Request) : Prop where
  payload : Fit (levelLimit - 1) r.payload
  fields : ∀ spec ∈ r.fields, spec.Bounded

/-- The parts of a message that are read can be read again. -/
structure Request.SoundParts (parts : Option Json × Option (List FieldSpec)) : Prop where
  payload : ∀ j, parts.1 = some j → Fit (levelLimit - 1) j
  fields : ∀ specs, parts.2 = some specs → ∀ spec ∈ specs, spec.Bounded

theorem Request.yields_reader : Yields Request.reader levelLimit Sound := by
  intro ts r rest hread
  have hstart : SoundParts (none, none) := by
    refine ⟨fun _ h => ?_, fun _ h => ?_⟩ <;> cases h
  have hyields := @Record.yields _ _ (levelLimit - 1) _ SoundParts hstart ?_ ts r rest hread
  · obtain ⟨parts, hparts, hr⟩ := hyields
    obtain ⟨payload, hpayload, hr⟩ := Option.bind_eq_some_iff.1 hr
    obtain ⟨fields, hfields, hr⟩ := Option.bind_eq_some_iff.1 hr
    cases hr
    exact ⟨hparts.payload payload hpayload, hparts.fields fields hfields⟩
  · intro field hfield parts hparts
    simp only [List.mem_cons, List.not_mem_nil, or_false] at hfield
    rcases hfield with rfl | rfl
    · refine Field.yields_of Reader.yields_document parts fun j hj => ⟨?_, hparts.fields⟩
      rintro _ ⟨⟩
      exact hj
    · have hlist : Yields (Reader.list FieldSpec.reader) (levelLimit - 1)
          fun specs => ∀ spec ∈ specs, spec.Bounded := Reader.yields_list FieldSpec.yields_reader
      refine Field.yields_of hlist parts fun specs hspecs => ⟨hparts.payload, ?_⟩
      rintro _ ⟨⟩
      exact hspecs

/-- Every message that is read can be read again. -/
theorem Request.sound_of_readStart {r : Request} {text : String}
    (h : readStart Request.reader text = .ok r) : r.Sound := of_readStart yields_reader h

/-- A message is read from its text. -/
theorem Request.readStart_write {r : Request} (h : r.Sound) (hint : r.payload.Integral) :
    readStart Request.reader r.write = .ok r := by
  have hspecs : List.Forall₂ Spells (r.fields.map FieldSpec.write) (r.fields.map FieldSpec.tokens) := by
    rw [List.forall₂_map_left_iff, List.forall₂_map_right_iff, List.forall₂_same]
    exact fun spec _ => (FieldSpec.firm_write spec).spells
  have hitems : List.Forall₂
      (fun ts spec => Reads FieldSpec.reader (levelLimit - 2) ts spec ∧ Reader.Begins ts)
      (r.fields.map FieldSpec.tokens) r.fields := by
    rw [List.forall₂_map_left_iff, List.forall₂_same]
    exact fun spec hspec => ⟨FieldSpec.reads_tokens (h.fields spec hspec), FieldSpec.begins_tokens spec⟩
  have htext : Firm r.write (objectTokens [("payload", tokensOf r.payload),
      ("fields", arrayTokens (r.fields.map FieldSpec.tokens))]) :=
    firm_writeObject (.cons ⟨rfl, spells_write hint⟩
      (.cons ⟨rfl, (firm_writeArray hspecs).spells⟩ .nil))
  refine readStart_of_spells htext.spells ?_
  refine @Record.reads _ _ (levelLimit - 1) _ (some r.payload, some r.fields) _ ?_ _ rfl
  refine .cons (Record.member_of_reads rfl rfl (Reader.reads_document h.payload hint)) ?_
  exact .cons (Record.member_of_reads rfl rfl (Reader.reads_list hitems)) .nil

/-- An answer is read from its text. -/
theorem Answer.readAll_write {a : Answer} (hfit : Fit (levelLimit - 1) a.payload)
    (hint : a.payload.Integral) : readAll Answer.reader a.write = .ok a := by
  have htext : Firm a.write (objectTokens [("payload", tokensOf a.payload)]) :=
    firm_writeObject (.cons ⟨rfl, spells_write hint⟩ .nil)
  refine readAll_of_spells htext.spells ?_
  refine @Record.reads _ _ (levelLimit - 1) _ (some a.payload) _ ?_ _ rfl
  exact .cons (Record.member_of_reads rfl rfl (Reader.reads_document hfit hint)) .nil

end Exchange

end FieldSeal

import FieldSeal.Envelope.Wire
import FieldSeal.Proofs.Mask.Shape
import FieldSeal.Proofs.Pattern.Start

/-!
# Which patterns of the catalog admit texts like envelopes

**All but one** (`SensitiveKind.not_isEnvelope_of_accepts`). A text that looks like an envelope starts
with an underscore. Of the patterns in the catalog all exclude this but that of addresses, and hence
admit no such text.

**Addresses.** In the pattern of addresses, the part in front of the at sign admits the underscore, and
the delimiter as well.
-/

namespace FieldSeal

open Pattern Unicode

namespace SensitiveKind

theorem setOf_not_has_underscore {cs : List Category}
    (h : ∀ c ∈ cs, c ∈ Category.letters ++ [.nd, .nl, .no]) :
    (Category.setOf cs).has '_' = false :=
  CodeSet.contains_flatMap fun c hc => Category.not_has_underscore (h c hc)

/-- Nothing but letters and numbers may stand between the start and the end. -/
theorem excludes_custom : custom.shape.excludes '_' := by
  have hletters : (Category.setOf Category.letters).has '_' = false :=
    setOf_not_has_underscore fun c hc => List.mem_append_left _ hc
  have hnumbers : (Category.setOf [.nd, .nl, .no]).has '_' = false :=
    setOf_not_has_underscore fun c hc => List.mem_append_right _ hc
  have hboth : CodeSet.has (Category.setOf Category.letters ++ Category.setOf [.nd, .nl, .no]) '_' =
      false := by
    rw [CodeSet.has, CodeSet.contains_append]
    exact Bool.or_eq_false_iff.2 ⟨hletters, hnumbers⟩
  simp [shape, Shape.whole, Shape.row, Shape.excludes, Shape.may, Look.mayHold, hboth]

/-- The patterns of all kinds but one exclude the underscore. -/
theorem excludes_underscore {kind : SensitiveKind} (hkind : kind ≠ email) :
    kind.shape.excludes '_' := by
  cases kind with
  | email => exact absurd rfl hkind
  | custom => exact excludes_custom
  | _ => decide

/-- **No text of a kind looks like an envelope**, addresses apart. -/
theorem not_isEnvelope_of_accepts {kind : SensitiveKind} (hkind : kind ≠ email) {text : String}
    (h : (MaskRule.ofKind kind).Accepts text) : ¬Envelope.isEnvelope text := by
  rcases h with hempty | ⟨p, hcompile, hmatch⟩
  · exact absurd hempty kind.pattern_not_isEmpty
  · intro henvelope
    have hsentinel : Envelope.sentinel.toList ++ [Envelope.delimiter] =
        '_' :: ['m', 'a', 's', 'k', '|'] := by decide
    rw [Envelope.isEnvelope, List.isPrefixOf_iff_prefix, hsentinel] at henvelope
    obtain ⟨rest, hrest⟩ := henvelope
    have hshape := kind.shape?_pattern.symm.trans (compile?_eq_some_iff.1 hcompile).1
    rw [Pattern.isMatch, ← hrest, ← Option.some.inj hshape] at hmatch
    exact not_occurs_of_excludes (excludes_underscore hkind) _ hmatch

end SensitiveKind

end FieldSeal

import FieldSeal.Proofs.Mask.Catalog
import FieldSeal.Proofs.Session.Basic

/-!
# Values that were never sealed are read as they are

**Theorem (`plain_values_read_back`).** A value that satisfies the pattern of its kind and does not
start like an envelope is revealed as it is. Addresses apart, that is every value which satisfies the
pattern.

**The sentinel decides.** What starts like an envelope is opened, and refused if it cannot be read,
even if it is an address (`sentinel_in_front_of_an_address`).

**The invariant** (`Session.keeps_run`). Whatever was asked of a codec, its masker keeps no other
patterns than those which the texts of rules denote. So the past of a codec has no say in this.
-/

namespace FieldSeal

namespace Codec

variable {c : Codec} {rule : MaskRule} {text : String}

/-! ## Patterns -/

/-- The masker stays faithful if it was. -/
def KeepsPatterns (c c' : Codec) : Prop := c.masker.Keeps c'.masker

instance : IsPreorder Codec KeepsPatterns where
  refl c := refl_of Masker.Keeps c.masker
  trans _ _ _ := trans_of Masker.Keeps

theorem keeps_onService {α : Type} (a : Service.Step α) :
    Action.Along KeepsPatterns (onService a) :=
  Action.along_mapError _ fun _ h => h

theorem keeps_onMasker {α : Type} {a : Masker.Step α} (h : Action.Along Masker.Keeps a) :
    Action.Along KeepsPatterns (onMasker a) :=
  Action.along_mapError _ (Action.along_on h fun _ _ hm => hm)

theorem keeps_protect (rule : MaskRule) (value : String) :
    Action.Along KeepsPatterns (protect rule value) := by
  unfold protect
  split
  · exact Action.along_pure _
  · exact Action.along_bind (keeps_onMasker (Masker.along_mask rule value)) fun _ =>
      keeps_onService _

theorem keeps_reveal (rule : MaskRule) (text : String) :
    Action.Along KeepsPatterns (reveal rule text) := by
  unfold reveal
  split
  · exact Action.along_pure _
  · split
    · exact keeps_onService _
    · refine Action.along_bind (keeps_onMasker (Masker.along_accepts rule text)) fun _ => ?_
      split
      · exact Action.along_pure _
      · exact Action.along_throw _

/-! ## Revealing -/

/-- A value that satisfies the rule passes, if it does not start like an envelope. Nothing is done
but to keep the pattern. -/
theorem reveal_of_accepts (hc : c.masker.Faithful) (h : rule.Accepts text)
    (hplain : ¬Envelope.isEnvelope text) :
    ∃ masker, reveal rule text c = (.ok text, { c with masker }) := by
  by_cases hempty : text.isEmpty
  · refine ⟨c.masker, ?_⟩
    rw [String.isEmpty_iff.1 hempty, reveal_empty]
  · obtain ⟨masker, hmasker⟩ := Action.exists_state_of_fst ((Masker.accepts_eq_ok_true_iff hc).2 h)
    refine ⟨masker, ?_⟩
    rw [reveal, if_neg hempty, if_neg hplain]
    have hasked : onMasker (Masker.accepts rule text) c = (.ok true, { c with masker }) := by
      rw [onMasker, Action.mapError_apply, Action.on_apply, hmasker]
      rfl
    rw [Action.bind_of_ok hasked]
    rfl

/-- A value that starts like an envelope and cannot be read as one is refused, whatever the rule. -/
theorem reveal_of_parse_error {cause : EnvelopeError} (h : Envelope.isEnvelope text)
    (hparse : Envelope.parse text = .error cause) (rule : MaskRule) (c : Codec) :
    reveal rule text c = (.error (.envelope cause), c) := by
  have hdecrypt : Service.decrypt text c.service = (.error cause, c.service) := by
    rw [Service.decrypt, hparse]
    rfl
  rw [reveal_of_isEnvelope h, onService, Action.mapError_apply, Action.on_apply, hdecrypt]
  rfl

end Codec

/-! ## Sessions -/

/-- Operations keep no pattern but what its text denotes. -/
theorem Operation.keeps_run {α : Type} (op : Operation α) (c : Codec) :
    c.KeepsPatterns (op.run c).2 := by
  cases op with
  | protect rule value => exact Codec.keeps_protect rule value c
  | reveal rule text => exact Codec.keeps_reveal rule text c
  | mask rule value => exact Masker.along_mask rule value c.masker
  | accepts rule value => exact Masker.along_accepts rule value c.masker
  | pattern text => exact Masker.along_pattern text c.masker
  | _ => exact refl_of Codec.KeepsPatterns c

namespace Session

theorem keeps_run (session : Session) (c : Codec) : c.KeepsPatterns (session.run c) := by
  induction session generalizing c with
  | nil => exact refl_of Codec.KeepsPatterns c
  | cons step rest ih => exact trans_of Codec.KeepsPatterns (step.2.keeps_run c) (ih _)

/-- **Plain values read back.** Let a codec be given whose masker is new, and let anything be asked of
it. Then under the rule of any kind of the catalog:

- A value that satisfies the pattern and does not start like an envelope is revealed as it is, and
  no more is done than to keep the pattern.
- If the kind is not that of addresses, no value that satisfies the pattern starts like an envelope,
  so that all of them are revealed as they are.
- A value that starts like an envelope and is none is refused for the reason for which it is none, and
  nothing is done. -/
theorem plain_values_read_back (service : Service) (session : Session) :
    let c := session.run { service }
    (∀ (kind : SensitiveKind) (text : String), (MaskRule.ofKind kind).Accepts text →
      ¬Envelope.isEnvelope text →
        ∃ masker, Codec.reveal (.ofKind kind) text c = (.ok text, { c with masker })) ∧
    (∀ kind : SensitiveKind, kind ≠ .email → ∀ text, (MaskRule.ofKind kind).Accepts text →
      ¬Envelope.isEnvelope text ∧
        ∃ masker, Codec.reveal (.ofKind kind) text c = (.ok text, { c with masker })) ∧
    ∀ (kind : SensitiveKind) (text : String) (cause : EnvelopeError), Envelope.isEnvelope text →
      Envelope.parse text = .error cause →
        Codec.reveal (.ofKind kind) text c = (.error (.envelope cause), c) := by
  intro c
  have hfaithful : c.masker.Faithful := keeps_run session { service } Masker.faithful_empty
  refine ⟨fun kind text haccepts hplain => Codec.reveal_of_accepts hfaithful haccepts hplain,
    fun kind hkind text haccepts => ?_, fun kind text cause henvelope hparse =>
      Codec.reveal_of_parse_error henvelope hparse _ c⟩
  have hplain := SensitiveKind.not_isEnvelope_of_accepts hkind haccepts
  exact ⟨hplain, Codec.reveal_of_accepts hfaithful haccepts hplain⟩

/-- An address that holds the sentinel, but not at its start, and a name, which cannot hold it. -/
theorem address_and_name_read_back :
    (MaskRule.ofKind .email).Accepts "a_mask|@b.cc" ∧ ¬Envelope.isEnvelope "a_mask|@b.cc" ∧
      (MaskRule.ofKind .chineseName).Accepts "张三" ∧
      (Codec.reveal (.ofKind .email) "a_mask|@b.cc"
        (run [⟨_, .protect (.ofKind .email) "x"⟩]
          { service := .standard (.always .gm) .fresh ⟨⟨fun _ => 0, 0⟩, []⟩ })).1 =
        .ok "a_mask|@b.cc" ∧
      (Codec.reveal (.ofKind .chineseName) "张三"
        (run [⟨_, .protect (.ofKind .email) "x"⟩]
          { service := .standard (.always .gm) .fresh ⟨⟨fun _ => 0, 0⟩, []⟩ })).1 = .ok "张三" := by
  have haddress : (MaskRule.ofKind .email).Accepts "a_mask|@b.cc" :=
    SensitiveKind.accepts_email (by decide +kernel)
  have hplain : ¬Envelope.isEnvelope "a_mask|@b.cc" := by decide +kernel
  let part : Pattern.Shape Unicode.CodeSet Pattern.Look := .rep (.take [(0x4e00, 0x9fa5)]) 1 none
  have hcompile : Pattern.compile? SensitiveKind.chineseName.pattern = some
      ⟨.cat (.test .textStart) (.cat part (.cat (.rep (.cat (.take (.single '·')) part) 0 none)
        (.test .textEnd)))⟩ :=
    Pattern.compile?_eq_some_iff.2 ⟨by decide +kernel, by cbv⟩
  have hname : (MaskRule.ofKind .chineseName).Accepts "张三" :=
    .inr ⟨_, hcompile, by decide +kernel⟩
  obtain ⟨hreveal, hothers, -⟩ := plain_values_read_back
    (.standard (.always .gm) .fresh ⟨⟨fun _ => 0, 0⟩, []⟩) [⟨_, .protect (.ofKind .email) "x"⟩]
  obtain ⟨masker, hmasker⟩ := hreveal .email "a_mask|@b.cc" haddress hplain
  obtain ⟨-, masker', hmasker'⟩ := hothers .chineseName (by decide) "张三" hname
  exact ⟨haddress, hplain, hname, congrArg Prod.fst hmasker, congrArg Prod.fst hmasker'⟩

/-- An address that starts with the sentinel satisfies the pattern and is no envelope, and yet it is
not revealed as it is. -/
theorem sentinel_in_front_of_an_address :
    (MaskRule.ofKind .email).Accepts "_mask|a@b.cc" ∧
      Envelope.parse "_mask|a@b.cc" = .error (.malformed .fieldCount) ∧
      (Codec.reveal (.ofKind .email) "_mask|a@b.cc"
        { service := .standard (.always .gm) .fresh ⟨⟨fun _ => 0, 0⟩, []⟩ }).1 =
        .error (.envelope (.malformed .fieldCount)) := by
  have hparse : Envelope.parse "_mask|a@b.cc" = .error (.malformed .fieldCount) := by decide +kernel
  have hreveal := Codec.reveal_of_parse_error (by decide +kernel) hparse (.ofKind .email)
    { service := .standard (.always .gm) .fresh ⟨⟨fun _ => 0, 0⟩, []⟩ }
  exact ⟨SensitiveKind.accepts_email (by decide +kernel), hparse, congrArg Prod.fst hreveal⟩

end Session

end FieldSeal

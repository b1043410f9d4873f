import FieldSeal.Proofs.Mask.Address
import FieldSeal.Proofs.Session.Plain
import FieldSeal.Proofs.Session.Protect

/-!
# Protecting what is protected

**Theorem (`envelopes_are_rejected_except_as_addresses`).** What is answered to `protect` starts like an
envelope, and the patterns of the catalog reject it. So no value is protected twice by mistake, with one
exception: an address that was protected is an address again. It is sealed a second time, with the
sentinel where the mask shows a local part, and has to be revealed twice.

**Rejection** (`Codec.protect_of_isEnvelope`). Whatever starts like an envelope is rejected under the
rules of all kinds but addresses and the custom kind, and nothing is done but to keep the pattern.

**Layers** (`Codec.Reveals`). What a codec can open it can open from then on, whatever is asked of it. So
both layers stay readable side by side (`Codec.reveals_of_protect`).
-/

namespace FieldSeal

theorem Envelope.not_isBlankText_of_isEnvelope {text : String} (h : isEnvelope text) :
    ¬Unicode.isBlankText text := by
  intro hblank
  rw [isEnvelope, List.isPrefixOf_iff_prefix] at h
  have hmem : delimiter ∈ text.toList := h.subset (by decide)
  have hdelimiter := List.all_eq_true.1 hblank _ hmem
  revert hdelimiter
  decide

namespace Codec

variable {c : Codec} {rule : MaskRule} {kind : SensitiveKind} {value wire : String}

/-- What starts like an envelope is no value of a kind, addresses apart. -/
theorem protect_of_isEnvelope (hm : c.masker.Faithful) (hkind : kind ≠ .email)
    (hcustom : kind ≠ .custom) (h : Envelope.isEnvelope wire) :
    ∃ masker, protect (.ofKind kind) wire c =
      (.error (.mask (.rejected kind)), { c with masker }) := by
  have hmust : (MaskRule.ofKind kind).mustMatch := decide_eq_true hcustom
  refine protect_of_mask_error (Masker.mask_of_not_accepts hm
    (Envelope.not_isBlankText_of_isEnvelope h) hmust (SensitiveKind.compile?_pattern hcustom) ?_)
  intro haccepts
  exact SensitiveKind.not_isEnvelope_of_accepts hkind haccepts h

theorem isEnvelope_of_protect (hvalue : value ≠ "") (h : (protect rule value c).1 = .ok wire) :
    Envelope.isEnvelope wire := by
  obtain ⟨e, shown, -, hmask, rfl⟩ := exists_toWire_of_protect hvalue h
  exact Envelope.isEnvelope_of_fields
    (Envelope.fields_written e (Masker.delimiter_notMem_of_mask hmask))

/-- What is answered for an address is an address at the same host. -/
theorem parts_of_protect (hm : c.masker.Faithful) {front domain : List Char}
    (hparts : SensitiveKind.Email.Parts value.toList front domain)
    (h : (protect (.ofKind .email) value c).1 = .ok wire) :
    ∃ (e : Envelope) (back : List Char),
      SensitiveKind.Email.Parts wire.toList (e.toWire.toList ++ back) domain := by
  have hvalue : value ≠ "" := by
    rintro rfl
    exact List.append_ne_nil_of_right_ne_nil front (List.cons_ne_nil _ _) hparts.eq.symm
  obtain ⟨e, shown, -, hmask, rfl⟩ := exists_toWire_of_protect hvalue h
  rw [hparts.mask hm, Except.ok.injEq] at hmask
  obtain ⟨back, hback⟩ := hparts.envelope e
  rw [hmask] at hback
  exact ⟨e, back, hback⟩

/-! ## Layers -/

/-- Whatever is asked of the codec, the text is revealed as the value after it, under any rule. -/
def Reveals (c : Codec) (wire value : String) : Prop :=
  ∀ session : Session, session.BuiltIn → ∀ rule,
    (reveal rule wire (session.run c)).1 = .ok value

theorem reveals_of_readable (hc : c.service.BuiltIn) (h : c.service.Readable wire value) :
    c.Reveals wire value := by
  intro session hsession rule
  have hfollows := Session.follows_run hsession c
  obtain ⟨c', hc'⟩ := reveal_of_readable (hfollows.builtIn hc) (hfollows.readable h)
  rw [hc']

/-- A layer around what can be revealed: both are revealed from then on. -/
theorem reveals_of_protect {outer : String} {c' : Codec} (hc : c.service.BuiltIn) (hwire : wire ≠ "")
    (hreadable : c.service.Readable wire value) (h : protect rule wire c = (.ok outer, c')) :
    c'.Reveals outer wire ∧ c'.Reveals wire value := by
  have hfollows := along_protect rule wire c
  rw [h] at hfollows
  have hc' : c'.service.BuiltIn := hfollows.builtIn hc
  exact ⟨reveals_of_readable hc' (readable_of_protect hc hwire h),
    reveals_of_readable hc' (hfollows.readable hreadable)⟩

end Codec

namespace Session

/-- **Protecting what is protected.** Let a codec be given whose masker is new, let anything be asked of
it, and let a value that is not empty be protected, under any rule and any policy. Let anything be asked
after that. Then what was answered is not protected again, addresses and the custom kind apart:

- Under the rule of any other kind it is rejected, and no more is done than to keep the pattern.
- If the value is an address and was protected as one, then what was answered is an address at the same
  host. Its mask shows the first characters of the sentinel, five stars and the host, and protecting
  it answers what sealing it does, with this mask behind the envelope.
- In this last case let the sealers be built in. If there is a sealer for the active suite and the
  supply has its keys, then only a text that is too long for the cipher is not protected. Once it is
  protected, the outer text is revealed as the inner one from then on, and the inner text as the
  address. -/
theorem envelopes_are_rejected_except_as_addresses (service : Service) (before between : Session)
    (rule : MaskRule) (value wire : String) (hvalue : value ≠ "")
    (h : (Codec.protect rule value (before.run { service })).1 = .ok wire) :
    let d := between.run (Codec.protect rule value (before.run { service })).2
    (∀ kind : SensitiveKind, kind ≠ .email → kind ≠ .custom → ∃ masker,
      Codec.protect (.ofKind kind) wire d =
        (.error (.mask (.rejected kind)), { d with masker })) ∧
    (rule = .ofKind .email → (MaskRule.ofKind .email).Accepts value → ∃ front domain,
      value.toList = front ++ '@' :: domain ∧ '@' ∉ domain ∧
      (MaskRule.ofKind .email).Accepts wire ∧
      let shown := "_mas*****@" ++ String.ofList domain
      (Codec.protect (.ofKind .email) wire d).1 =
        ((Service.encrypt wire d.service).1.map (·.toWire ++ shown)).mapError .envelope ∧
      (service.BuiltIn → before.BuiltIn → between.BuiltIn →
        (service.supply.Sized → ∀ suite, d.service.sealing? = some suite →
          ¬suite.Overflows wire → ∃ outer, (Codec.protect (.ofKind .email) wire d).1 = .ok outer) ∧
        ∀ outer d', Codec.protect (.ofKind .email) wire d = (.ok outer, d') →
          Envelope.displayMask outer = some shown ∧ d'.Reveals outer wire ∧
            d'.Reveals wire value)) := by
  intro d
  have hm : (before.run { service }).masker.Faithful :=
    keeps_run before { service } Masker.faithful_empty
  have hd : d.masker.Faithful := keeps_run between _ (Codec.keeps_protect rule value _ hm)
  have henvelope := Codec.isEnvelope_of_protect hvalue h
  refine ⟨fun kind hkind hcustom => Codec.protect_of_isEnvelope hd hkind hcustom henvelope, ?_⟩
  rintro rfl haccepts
  obtain ⟨front, domain, hparts⟩ := SensitiveKind.Email.accepts_email_iff.1 haccepts
  obtain ⟨e, back, hback⟩ := Codec.parts_of_protect hm hparts h
  have hmask := hback.mask_envelope hd
  have hwire : wire ≠ "" := by
    rintro rfl
    revert henvelope
    decide
  obtain ⟨hanswer, -⟩ := Codec.protect_of_mask hwire hmask
  refine ⟨front, domain, hparts.eq, hparts.notMem.2.2.2.1, hback.accepts, hanswer,
    fun hservice hbefore hbetween => ?_⟩
  have hstart : (before.run { service }).service.BuiltIn := (follows_run hbefore _).builtIn hservice
  have hinner := (Codec.along_protect (.ofKind .email) value (before.run { service })).builtIn hstart
  have hfollows : Codec.Follows _ d := follows_run hbetween _
  have hbuiltIn : d.service.BuiltIn := hfollows.builtIn hinner
  have hreadable : d.service.Readable wire value :=
    hfollows.readable (Codec.readable_of_protect hstart hvalue (Prod.ext h rfl))
  refine ⟨fun hsized suite hsealing hlong => ?_, fun outer d' houter => ?_⟩
  · have hfirst := sized_run (c := { service }) hbefore hservice hsized
    have hsecond := ((Operation.protect (.ofKind .email) value).spends_run hstart hfirst).sized hfirst
    have hsized' : d.service.supply.Sized := sized_run hbetween hinner hsecond
    exact Codec.exists_protect hbuiltIn hsized' hwire hmask hsealing hlong
  · exact ⟨Codec.displayMask_of_protect hwire hmask (congrArg Prod.fst houter),
      Codec.reveals_of_protect hbuiltIn hwire hreadable houter⟩

/-- An address with a delimiter and a dot, protected under the national standard. -/
theorem address_is_protected_twice :
    let service : Service := (start [.gm] (.always .gm) .fresh ⟨⟨fun _ => 0, 0⟩, []⟩).service
    ∃ inner c, Codec.protect (.ofKind .email) "a|.b@c.de" { service } = (.ok inner, c) ∧
      (∃ masker, Codec.protect (.ofKind .bankCard) inner c =
        (.error (.mask (.rejected .bankCard)), { c with masker })) ∧
      (MaskRule.ofKind .email).Accepts inner ∧
      ∃ outer d, Codec.protect (.ofKind .email) inner c = (.ok outer, d) ∧
        Envelope.displayMask outer = some "_mas*****@c.de" ∧ d.Reveals outer inner ∧
        d.Reveals inner "a|.b@c.de" := by
  intro service
  have hbuiltIn : service.BuiltIn := builtIn_start _ _ _ _
  have hsized : service.supply.Sized := fun _ _ => nofun
  have hvalue : "a|.b@c.de" ≠ "" := by decide
  have haccepts : (MaskRule.ofKind .email).Accepts "a|.b@c.de" :=
    SensitiveKind.accepts_email (by decide +kernel)
  obtain ⟨-, -, shown, -, -, hmask, -⟩ :=
    @SensitiveKind.mask_address "a|.b@c.de" {} Masker.faithful_empty haccepts
  obtain ⟨inner, hinner⟩ := @Codec.exists_protect { service } _ _ _ .gm hbuiltIn hsized hvalue
    hmask (by decide +kernel) nofun
  obtain ⟨c, hc⟩ := Action.exists_state_of_fst hinner
  have hsealing : c.service.sealing? = some .gm := by
    have hservice := (@Codec.protect_of_mask { service } _ _ _ hvalue hmask).2
    rw [hc] at hservice
    rw [hservice]
    decide +kernel
  have htwice := envelopes_are_rejected_except_as_addresses service [] [] (.ofKind .email)
    "a|.b@c.de" inner hvalue hinner
  dsimp only at htwice
  have hrun : ∀ c, run [] c = c := fun _ => rfl
  rw [hrun, hrun, hc] at htwice
  obtain ⟨hrejected, haddress⟩ := htwice
  obtain ⟨front, domain, htext, hat, haccepts', -, hlayers⟩ := haddress rfl haccepts
  obtain ⟨hprotects, hreveals⟩ := hlayers hbuiltIn nofun nofun
  obtain ⟨outer, houter⟩ := hprotects hsized .gm hsealing nofun
  obtain ⟨d, hd⟩ := Action.exists_state_of_fst houter
  obtain ⟨hshown, hrevealed⟩ := hreveals outer d hd
  have hsplit : "a|.b@c.de".toList = ['a', '|', '.', 'b'] ++ '@' :: ['c', '.', 'd', 'e'] := by decide
  obtain ⟨-, -, rfl⟩ := (List.append_cons_inj_of_notMem (by decide) (by decide)).1
    (hsplit.symm.trans htext)
  exact ⟨inner, c, hc, hrejected .bankCard (by decide) (by decide), haccepts', outer, d, hd, hshown,
    hrevealed⟩

end Session

end FieldSeal

import FieldSeal.Proofs.Session.Spending

/-!
# Random bytes are used once

**Theorem (`random_bytes_are_used_once`).** Whatever is done with a codec and the built-in sealers,
the bytes taken from the stream are those of slices that lie one behind the other. Every envelope
has a slice for its nonce, every key that is kept has one from when it was first asked for, and what
is refused draws nothing.

**Acts.** An `Act` is an operation of a codec or a direct use of a built-in sealer. It says for which
kinds of keys it asks (`Act.asks`), what it draws (`Act.uses`), and which envelope it makes
(`Act.envelope?`). `Act.Accounted` relates these to each other and to the answer.

**Runs.** Each act spends what it uses (`Act.spends_run`), and so does a run of acts
(`Acts.spends_run`).
-/

namespace FieldSeal

/-! ## Acts -/

/-- Something that is done with a codec or with a built-in sealer; the index is the type of the
answer. -/
inductive Act : Type → Type 1 where
  | call {α : Type} (op : Operation α) : Act α
  /-- Seal a text with keys that the caller has. -/
  | encrypt (suite : Suite) (keys : KeyPair) (text : String) : Act (Except EnvelopeError Envelope)
  /-- Open an envelope with keys that the caller has. -/
  | decrypt (suite : Suite) (keys : KeyPair) (e : Envelope) : Act (Except EnvelopeError String)

namespace Act

variable {α : Type} {c : Codec} {act : Act α}

def run : {α : Type} → Act α → Codec → α × Codec
  | _, call op => op.run
  | _, encrypt suite keys text =>
    Operation.onService (Service.onEntropy ((Sealer.builtIn suite).encrypt keys text))
  | _, decrypt suite keys e => fun c => ((Sealer.builtIn suite).decrypt keys e, c)

/-- The act registers no foreign sealer. -/
def BuiltIn : {α : Type} → Act α → Prop
  | _, call op => op.BuiltIn
  | _, encrypt _ _ _ | _, decrypt _ _ _ => True

/-- The act is there to seal a text. -/
def seals : {α : Type} → Act α → Bool
  | _, call op => op.seals
  | _, encrypt _ _ _ => true
  | _, decrypt _ _ _ => false

/-- The envelope that the act makes, whether or not its answer shows it. -/
def envelope? : {α : Type} → Act α → Codec → Option Envelope
  | _, call op, c => op.envelope? c
  | _, encrypt suite keys text, c =>
    ((Sealer.builtIn suite).encrypt keys text c.service.host.entropy).1.toOption
  | _, decrypt _ _ _, _ => none

/-- The answer to sealing, and the envelope that was made. -/
inductive Answers : {α : Type} → Act α → α → Option Envelope → Prop
  | call {α : Type} {op : Operation α} {answer : α} {e? : Option Envelope}
    (h : op.Answers answer e?) : Answers (call op) answer e?
  | encrypt {suite : Suite} {keys : KeyPair} {text : String}
    (result : Except EnvelopeError Envelope) :
    Answers (encrypt suite keys text) result result.toOption

/-- The act answers with a key that is kept nowhere. -/
inductive Generates : {α : Type} → Act α → α → KeyKind → SecretKey → Prop
  | generateKey (kind : KeyKind) (key : SecretKey) :
    Generates (call (.generateKey kind)) key kind key

/-- The text of the act is too long for the cipher. -/
def Overflows : {α : Type} → Act α → Codec → Prop
  | _, call op, c => ∃ text, op.text? c = some text ∧ c.service.policy.ask.1.Overflows text
  | _, encrypt suite _ text, _ => suite.Overflows text
  | _, decrypt _ _ _, _ => False

/-- The kinds of keys for which the act asks the supply. -/
def asks : {α : Type} → Act α → Codec → List KeyKind
  | _, call op, c => op.asks c
  | _, encrypt _ _ _, _ | _, decrypt _ _ _, _ => []

/-- What the act draws apart from keys that the supply keeps. -/
def others : {α : Type} → Act α → Codec → List Use
  | _, call op, c => op.others c
  | _, encrypt suite keys _, _ => if keys.fits suite then [.nonce suite] else []
  | _, decrypt _ _ _, _ => []

/-- What the act draws. -/
def uses (act : Act α) (c : Codec) : List Use :=
  c.service.supply.missing (act.asks c) ++ act.others c

/-- The parts of the stream that the act draws. -/
def slices (act : Act α) (c : Codec) : List Slice :=
  layOut c.service.host.entropy.taken (act.uses c)

theorem follows_run (act : Act α) (h : act.BuiltIn) (c : Codec) : c.Follows (act.run c).2 := by
  cases act with
  | call op => exact op.follows_run h c
  | encrypt suite keys text => exact Operation.along_onService (Service.along_onEntropy _) c
  | decrypt suite keys e => exact Codec.Follows.refl c

/-- An act spends what it uses. -/
theorem spends_run (act : Act α) (hc : c.service.BuiltIn) (hsized : c.service.supply.Sized) :
    Spends (act.asks c) (act.uses c) c.store (act.run c).2.store := by
  cases act with
  | call op => exact op.spends_run hc hsized
  | encrypt suite keys text =>
    show Spends [] (if keys.fits suite then [.nonce suite] else [])
      (c.service.supply, c.service.host.entropy)
      (c.service.supply, ((Sealer.builtIn suite).encrypt keys text c.service.host.entropy).2)
    rw [Sealer.entropy_encrypt]
    by_cases hfits : keys.fits suite
    · rw [if_pos hfits, if_pos hfits]
      exact Spends.of_others _ (by simp) _ _
    · rw [if_neg hfits, if_neg hfits]
      exact Spends.refl _
  | decrypt suite keys e => exact Spends.refl _

/-- How what an act draws goes with what it does. -/
structure Accounted (act : Act α) (c : Codec) : Prop where
  /-- Keys are asked for in the order of their kinds. -/
  ordered : (act.asks c).Sublist KeyKind.all
  /-- A sealing act answers with the envelope that it makes, if its form and mask permit. -/
  answers : act.seals → act.Answers (act.run c).1 (act.envelope? c)
  /-- An envelope has one slice, behind those for keys, and its nonce are the bytes of it. -/
  nonce : ∀ e, act.envelope? c = some e → ∃ keys slice, act.slices c = keys ++ [slice] ∧
    keys.map Slice.use = c.service.supply.missing (act.asks c) ∧ slice.use = .nonce e.suite ∧
      e.nonce = slice.bytes c.service.host.entropy
  /-- Without an envelope nothing at all is drawn. There is one exception: the cipher refuses a text
  that is too long only when it has its nonce. -/
  refused : act.seals → act.envelope? c = none → act.uses c = [] ∨
    act.Overflows c ∧ act.others c = [.nonce .modern]
  /-- A key that is kept nowhere has one slice. -/
  loose : ∀ kind key, act.Generates (act.run c).1 kind key → ∃ slice, act.slices c = [slice] ∧
    slice.use = .loose kind ∧ key.bytes = slice.bytes c.service.host.entropy
  /-- All other acts draw nothing but keys that are missing. -/
  rest : ¬act.seals → (∀ kind key, ¬act.Generates (act.run c).1 kind key) →
    act.uses c = c.service.supply.missing (act.asks c)

theorem slices_of_others {use : Use} (h : act.others c = [use]) :
    act.slices c = layOut c.service.host.entropy.taken (c.service.supply.missing (act.asks c)) ++
      [⟨use, c.service.host.entropy.taken + Use.total (c.service.supply.missing (act.asks c))⟩] := by
  rw [slices, uses, h, layOut_append]
  rfl

theorem nonce_of_envelope? (hc : c.service.BuiltIn) (hsized : c.service.supply.Sized) {e : Envelope}
    (h : act.envelope? c = some e) :
    act.others c = [.nonce e.suite] ∧ e.nonce = Slice.bytes c.service.host.entropy
      ⟨.nonce e.suite, c.service.host.entropy.taken +
        Use.total (c.service.supply.missing (act.asks c))⟩ := by
  cases act with
  | call op =>
    obtain ⟨text, htext, hencrypt⟩ := Operation.exists_of_envelope? h
    obtain ⟨hsealing, hnonce⟩ := Service.nonce_of_encrypt hc hsized hencrypt
    obtain ⟨hasks, hothers⟩ := Operation.draws_of_text htext
    show op.others c = _ ∧ e.nonce = Slice.bytes _
      ⟨_, _ + Use.total (c.service.supply.missing (op.asks c))⟩
    rw [hothers, hasks, hsealing]
    exact ⟨rfl, hnonce⟩
  | encrypt suite keys text =>
    obtain ⟨hfits, rfl, hnonce⟩ := Sealer.nonce_of_encrypt (except_toOption_eq_some_iff.1 h)
    exact ⟨if_pos hfits, hnonce⟩
  | decrypt suite keys e => cases h

/-- Without an envelope nothing is drawn, unless the text is too long for the cipher. -/
theorem uses_of_refused (hc : c.service.BuiltIn) (hsized : c.service.supply.Sized)
    (hseals : act.seals) (h : act.envelope? c = none) :
    act.uses c = [] ∨ act.Overflows c ∧ act.others c = [.nonce .modern] := by
  cases act with
  | call op =>
    show c.service.supply.missing (op.asks c) ++ op.others c = [] ∨
      (∃ text, op.text? c = some text ∧ c.service.policy.ask.1.Overflows text) ∧
        op.others c = [.nonce .modern]
    cases htext : op.text? c with
    | none =>
      obtain ⟨hasks, hothers⟩ := Operation.draws_of_no_text hseals htext
      rw [hasks, hothers]
      exact .inl rfl
    | some text =>
      obtain ⟨hasks, hothers⟩ := Operation.draws_of_text htext
      rw [hasks, hothers]
      cases hsealing : c.service.sealing? with
      | none =>
        left
        have hnothing := Service.sealingUses_of_not_sealing hsealing
        rwa [Service.sealingUses, hsealing] at hnothing
      | some suite =>
        right
        have hlong : suite.Overflows text := by
          by_contra hshort
          obtain ⟨e, he⟩ := Service.exists_encrypt hc hsized hsealing hshort
          have hmade : op.envelope? c = some e :=
            Option.bind_eq_some_iff.2 ⟨text, htext, except_toOption_eq_some_iff.2 he⟩
          cases hmade.symm.trans h
        refine ⟨⟨text, rfl, Service.eq_of_sealing? hsealing ▸ hlong⟩, ?_⟩
        rw [hlong.1]
        rfl
  | encrypt suite keys text =>
    by_cases hfits : keys.fits suite
    · right
      have hlong : suite.Overflows text := by
        by_contra hshort
        obtain ⟨e, he⟩ := Sealer.exists_encrypt hfits hshort c.service.host.entropy
        cases (except_toOption_eq_some_iff.2 he).symm.trans h
      cases hlong.1
      exact ⟨hlong, if_pos hfits⟩
    · exact .inl (if_neg hfits)
  | decrypt suite keys e => cases hseals

theorem others_of_rest (hseals : ¬act.seals)
    (h : ∀ kind key, ¬act.Generates (act.run c).1 kind key) : act.others c = [] := by
  cases act with
  | call op =>
    cases op with
    | generateKey kind => exact absurd (.generateKey kind _) (h kind _)
    | protect rule value =>
      have hvalue : value.isEmpty := by simpa [seals, Operation.seals] using hseals
      simp [others, Operation.others, Operation.text?, hvalue]
    | encrypt text => exact absurd rfl hseals
    | encryptToWire text => exact absurd rfl hseals
    | encryptWithMask text shown => exact absurd rfl hseals
    | _ => rfl
  | encrypt suite keys text => exact absurd rfl hseals
  | decrypt suite keys e => rfl

theorem kept_notMem_others (act : Act α) {kind : KeyKind} : .kept kind ∉ act.others c := by
  cases act with
  | call op => exact op.kept_notMem_others
  | encrypt suite keys text =>
    show .kept kind ∉ if keys.fits suite then [Use.nonce suite] else []
    split <;> simp
  | decrypt suite keys e => exact List.not_mem_nil

/-- What every act draws goes with what it does. -/
theorem accounted (hc : c.service.BuiltIn) (hsized : c.service.supply.Sized) (act : Act α) :
    act.Accounted c where
  ordered := by
    cases act with
    | call op => exact op.sublist_asks c
    | encrypt suite keys text => exact List.nil_sublist _
    | decrypt suite keys e => exact List.nil_sublist _
  answers hseals := by
    cases act with
    | call op => exact .call (Operation.answers_run hseals c)
    | encrypt suite keys text => exact .encrypt _
    | decrypt suite keys e => cases hseals
  nonce e h := by
    obtain ⟨hothers, hnonce⟩ := nonce_of_envelope? hc hsized h
    exact ⟨_, _, slices_of_others hothers, map_use_layOut _ _, rfl, hnonce⟩
  refused := uses_of_refused hc hsized
  loose kind key h := by
    cases h
    exact ⟨_, rfl, rfl, rfl⟩
  rest hseals h := by rw [uses, others_of_rest hseals h, List.append_nil]

end Act

/-! ## Runs -/

/-- Acts in the order in which they are done. -/
abbrev Acts := List ((α : Type) × Act α)

namespace Acts

variable {c : Codec} {acts : Acts}

/-- The codec after some acts. -/
def run : Acts → Codec → Codec
  | [], c => c
  | ⟨_, act⟩ :: rest, c => run rest (act.run c).2

/-- No act registers a foreign sealer. -/
def BuiltIn (acts : Acts) : Prop := ∀ step ∈ acts, step.2.BuiltIn

/-- The kinds of keys for which the acts ask the supply. -/
def asks : Acts → Codec → List KeyKind
  | [], _ => []
  | ⟨_, act⟩ :: rest, c => act.asks c ++ asks rest (act.run c).2

/-- What the acts draw. -/
def uses : Acts → Codec → List Use
  | [], _ => []
  | ⟨_, act⟩ :: rest, c => act.uses c ++ uses rest (act.run c).2

/-- The parts of the stream that the acts draw. -/
def slices : Acts → Codec → List Slice
  | [], _ => []
  | ⟨_, act⟩ :: rest, c => act.slices c ++ slices rest (act.run c).2

/-- The envelopes that the acts make. -/
def envelopes : Acts → Codec → List Envelope
  | [], _ => []
  | ⟨_, act⟩ :: rest, c => (act.envelope? c).toList ++ envelopes rest (act.run c).2

theorem builtIn_append_iff {acts' : Acts} :
    (acts ++ acts').BuiltIn ↔ acts.BuiltIn ∧ acts'.BuiltIn := List.forall_mem_append

theorem builtIn_cons_iff {step : (α : Type) × Act α} :
    BuiltIn (step :: acts) ↔ step.2.BuiltIn ∧ acts.BuiltIn := List.forall_mem_cons

theorem follows_run (h : acts.BuiltIn) (c : Codec) : c.Follows (acts.run c) := by
  induction acts generalizing c with
  | nil => exact Codec.Follows.refl c
  | cons step rest ih =>
    obtain ⟨hstep, hrest⟩ := builtIn_cons_iff.1 h
    exact (step.2.follows_run hstep c).trans (ih hrest _)

/-- A run of acts spends what the acts use. -/
theorem spends_run (h : acts.BuiltIn) (hc : c.service.BuiltIn) (hsized : c.service.supply.Sized) :
    Spends (acts.asks c) (acts.uses c) c.store (acts.run c).store := by
  induction acts generalizing c with
  | nil => exact Spends.refl _
  | cons step rest ih =>
    obtain ⟨hstep, hrest⟩ := builtIn_cons_iff.1 h
    have hact := step.2.spends_run hc hsized
    exact hact.trans (ih hrest ((step.2.follows_run hstep c).builtIn hc) (hact.sized hsized))

/-- The slices of a run lie one behind the other. -/
theorem slices_eq (h : acts.BuiltIn) (hc : c.service.BuiltIn) (hsized : c.service.supply.Sized) :
    acts.slices c = layOut c.service.host.entropy.taken (acts.uses c) := by
  induction acts generalizing c with
  | nil => rfl
  | cons step rest ih =>
    obtain ⟨hstep, hrest⟩ := builtIn_cons_iff.1 h
    have hact := step.2.spends_run hc hsized
    have hlater := ih hrest ((step.2.follows_run hstep c).builtIn hc) (hact.sized hsized)
    show step.2.slices c ++ _ = layOut _ (step.2.uses c ++ _)
    rw [hlater, layOut_append, Codec.taken_of_spends hact]
    rfl

/-- Every envelope of a run has a slice of it. -/
theorem exists_slice_of_mem_envelopes (h : acts.BuiltIn) (hc : c.service.BuiltIn)
    (hsized : c.service.supply.Sized) {e : Envelope} (he : e ∈ acts.envelopes c) :
    ∃ slice ∈ acts.slices c, slice.use = .nonce e.suite ∧
      e.nonce = slice.bytes c.service.host.entropy := by
  induction acts generalizing c with
  | nil => cases he
  | cons step rest ih =>
    obtain ⟨hstep, hrest⟩ := builtIn_cons_iff.1 h
    have hact := step.2.spends_run hc hsized
    rcases List.mem_append.1 he with he | he
    · obtain ⟨keys, slice, hslices, -, huse, hnonce⟩ :=
        (step.2.accounted hc hsized).nonce e (Option.mem_toList.1 he)
      refine ⟨slice, List.mem_append_left _ ?_, huse, hnonce⟩
      rw [hslices]
      exact List.mem_append_right _ (List.mem_singleton_self slice)
    · obtain ⟨slice, hslice, huse, hnonce⟩ :=
        ih hrest ((step.2.follows_run hstep c).builtIn hc) (hact.sized hsized) he
      refine ⟨slice, List.mem_append_right _ hslice, huse, ?_⟩
      rw [hnonce]
      exact Slice.bytes_congr hact.byte_eq slice

/-- The envelopes of a run have their nonces from different parts of the stream. -/
theorem pairwise_envelopes (h : acts.BuiltIn) (hc : c.service.BuiltIn)
    (hsized : c.service.supply.Sized) :
    (acts.envelopes c).Pairwise fun e e' => ∃ slice slice' : Slice, slice.stop ≤ slice'.start ∧
      e.nonce = slice.bytes c.service.host.entropy ∧
        e'.nonce = slice'.bytes c.service.host.entropy := by
  induction acts generalizing c with
  | nil => exact .nil
  | cons step rest ih =>
    obtain ⟨hstep, hrest⟩ := builtIn_cons_iff.1 h
    have hact := step.2.spends_run hc hsized
    have hlater := (step.2.follows_run hstep c).builtIn hc
    have hbytes : ∀ slice : Slice, slice.bytes (step.2.run c).2.service.host.entropy =
        slice.bytes c.service.host.entropy := Slice.bytes_congr hact.byte_eq
    refine List.pairwise_append.2 ⟨?_, ?_, fun e he e' he' => ?_⟩
    · cases step.2.envelope? c with
      | none => exact .nil
      | some e => exact List.pairwise_singleton _ _
    · simpa only [hbytes] using ih hrest hlater (hact.sized hsized)
    · obtain ⟨keys, slice, hslices, -, -, hnonce⟩ :=
        (step.2.accounted hc hsized).nonce e (Option.mem_toList.1 he)
      obtain ⟨slice', hslice', -, hnonce'⟩ :=
        exists_slice_of_mem_envelopes hrest hlater (hact.sized hsized) he'
      rw [hbytes] at hnonce'
      refine ⟨slice, slice', ?_, hnonce, hnonce'⟩
      have hdisjoint := pairwise_layOut c.service.host.entropy.taken (uses (step :: rest) c)
      rw [← slices_eq h hc hsized] at hdisjoint
      refine (List.pairwise_append.1 hdisjoint).2.2 slice ?_ slice' hslice'
      rw [hslices]
      exact List.mem_append_right _ (List.mem_singleton_self slice)

/-! ## The theorem -/

/-- **Random bytes are used once, and none are wasted.** Let only built-in sealers be registered or
bound, and let the keys that the supply has made have the lengths of their kinds, as all do that it
makes.

- A run of acts moves the stream by what the acts use, and by nothing else. Each kind of key that is
  asked for and that is lacking is drawn exactly once, is the key from then on, and is lacking no
  more.
- The slices lie one behind the other, so that no two of them share a byte.
- The nonces of two envelopes are different slices. If they are equal, the stream repeats itself.
- Each act is accounted for, and draws a key that is to be kept if and only if it is the first to ask
  for its kind. -/
theorem random_bytes_are_used_once (hc : c.service.BuiltIn) (hsized : c.service.supply.Sized)
    (hacts : acts.BuiltIn) :
    Spends (acts.asks c) (acts.uses c) c.store (acts.run c).store ∧
    acts.slices c = layOut c.service.host.entropy.taken (acts.uses c) ∧
    (acts.slices c).Pairwise (fun slice slice' => slice.stop ≤ slice'.start) ∧
    (acts.envelopes c).Pairwise (fun e e' => ∃ slice slice' : Slice, slice.stop ≤ slice'.start ∧
      e.nonce = slice.bytes c.service.host.entropy ∧
        e'.nonce = slice'.bytes c.service.host.entropy) ∧
    ∀ (before after : Acts) (α : Type) (act : Act α), acts = before ++ ⟨α, act⟩ :: after →
      act.Accounted (before.run c) ∧
      ∀ kind, .kept kind ∈ act.uses (before.run c) ↔
        kind ∈ act.asks (before.run c) ∧ c.service.supply.lacks kind ∧ kind ∉ before.asks c := by
  have hslices := slices_eq hacts hc hsized
  refine ⟨spends_run hacts hc hsized, hslices, ?_, pairwise_envelopes hacts hc hsized, ?_⟩
  · rw [hslices]
    exact pairwise_layOut _ _
  · rintro before after α act rfl
    obtain ⟨hbefore, -⟩ := builtIn_append_iff.1 hacts
    have hspends := spends_run hbefore hc hsized
    have haccounted := act.accounted ((follows_run hbefore c).builtIn hc) (hspends.sized hsized)
    refine ⟨haccounted, fun kind => ?_⟩
    have hlacks : (before.run c).service.supply.lacks kind ↔
        c.service.supply.lacks kind ∧ kind ∉ before.asks c := hspends.lacks kind
    rw [Act.uses, List.mem_append, or_iff_left act.kept_notMem_others,
      KeySupply.kept_mem_missing_iff, hlacks]

theorem sized_fresh : KeySupply.fresh.Sized := by
  intro kind key h
  cases h

/-- A mask with a delimiter costs the keys of GM and a nonce; a key is generated, a text is sealed
under the other suite, and one without keys is refused. -/
theorem bytes_of_a_withheld_envelope :
    ∃ c : Codec, ∃ acts : Acts, c.service.BuiltIn ∧ c.service.supply.Sized ∧ acts.BuiltIn ∧
      acts = [⟨_, .call (.encryptWithMask "a" "|")⟩, ⟨_, .call (.generateKey .gmMac)⟩,
        ⟨_, .call (.encrypt "b")⟩, ⟨_, .encrypt .gm ⟨none, none⟩ "c"⟩] ∧
      acts.slices c = [⟨.kept .gmEncryption, 0⟩, ⟨.kept .gmMac, 16⟩, ⟨.nonce .gm, 48⟩,
        ⟨.loose .gmMac, 64⟩, ⟨.kept .modernEncryption, 96⟩, ⟨.nonce .modern, 128⟩] ∧
      (acts.run c).service.host.entropy.taken = 140 := by
  let c := Session.start [.gm, .modern] ⟨fun i => if i = 0 then .gm else .modern, 0⟩ .fresh
    ⟨⟨fun i => UInt8.ofNat i, 0⟩, []⟩
  let acts : Acts := [⟨_, .call (.encryptWithMask "a" "|")⟩, ⟨_, .call (.generateKey .gmMac)⟩,
    ⟨_, .call (.encrypt "b")⟩, ⟨_, .encrypt .gm ⟨none, none⟩ "c"⟩]
  have hc : c.service.BuiltIn := Session.builtIn_start _ _ _ _
  have hacts : acts.BuiltIn := by simp [acts, BuiltIn, Act.BuiltIn, Operation.BuiltIn]
  obtain ⟨hspends, hslices, -⟩ := random_bytes_are_used_once hc sized_fresh hacts
  have huses : acts.uses c = [.kept .gmEncryption, .kept .gmMac, .nonce .gm, .loose .gmMac,
      .kept .modernEncryption, .nonce .modern] := by decide +kernel
  have htaken := Codec.taken_of_spends hspends
  rw [huses] at hslices htaken
  exact ⟨c, acts, hc, sized_fresh, hacts, rfl, hslices, htaken⟩

end Acts

end FieldSeal

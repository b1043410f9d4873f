import FieldSeal.Proofs.Document.Reorder
import FieldSeal.Proofs.Service.Terms
import FieldSeal.Proofs.Session.Plain
import FieldSeal.Proofs.Session.Protect

/-!
# The order of rules

**Theorem (`order_of_rules_is_free`).** Two codecs work under the same terms: the same keys, the same
active suite, the same suites on offer. If no text is addressed by two of the rules, then in any order
of the rules, and with either codec, they protect or reveal the same documents. What is revealed is
equal, and what is protected differs in its random bytes alone.

**Terms** (`Codec.Under`). A codec stays under its terms whatever is protected or revealed with it. What
it reveals is settled by the rule and the text (`settled_reveal`), and so is what it protects, up to the
envelope, which is a sealing of the text with the same mask (`Sealing`, `settled_protect`).
-/

namespace FieldSeal

/-- The text denotes an envelope of the active suite, shows the mask, and is opened to the value by
whatever works under the terms. -/
structure Sealing (t : Terms) (value shown wire : String) : Prop where
  suite : ∃ e, Envelope.parse wire = .ok e ∧ e.suite = t.active
  mask : Envelope.displayMask wire = some shown
  opens : ∀ s : Service, s.Under t → (Service.decrypt wire s).1 = .ok value

/-- Both texts are sealings of the value with the same mask; an empty value stays what it is. -/
def Sealings (t : Terms) (value wire wire' : String) : Prop :=
  (value = "" ∧ wire = "" ∧ wire' = "") ∨
    (value ≠ "" ∧ ∃ shown, Sealing t value shown wire ∧ Sealing t value shown wire')

namespace Codec

variable {t : Terms} {c c' : Codec} {rule : MaskRule} {value wire : String}

/-- The service is under the terms, and the masker keeps only patterns as their texts denote them. -/
structure Under (t : Terms) (c : Codec) : Prop where
  service : c.service.Under t
  masker : c.masker.Faithful

/-- Whatever terms the first codec is under, the second one is under them too. -/
def Stays (c c' : Codec) : Prop := ∀ t : Terms, c.Under t → c'.Under t

instance : IsPreorder Codec Stays where
  refl _ _ h := h
  trans _ _ _ h h' t := h' t ∘ h t

theorem stays_onService {α : Type} {a : Service.Step α} (h : Action.Along Service.Stays a) :
    Action.Along Stays (onService a) :=
  Action.along_mapError _ (Action.along_on h fun _ _ hs t hc => ⟨hs t hc.service, hc.masker⟩)

theorem stays_onMasker {α : Type} {a : Masker.Step α} (h : Action.Along Masker.Keeps a) :
    Action.Along Stays (onMasker a) :=
  Action.along_mapError _ (Action.along_on h fun _ _ hm _ hc => ⟨hc.service, hm hc.masker⟩)

theorem stays_protect (rule : MaskRule) (value : String) :
    Action.Along Stays (protect rule value) := by
  unfold protect
  split
  · exact Action.along_pure _
  · refine Action.along_bind (stays_onMasker (Masker.along_mask rule value)) fun mask => ?_
    exact stays_onService (Service.stays_encryptWithMask value mask)

theorem stays_reveal (rule : MaskRule) (text : String) : Action.Along Stays (reveal rule text) := by
  unfold reveal
  split
  · exact Action.along_pure _
  · split
    · exact stays_onService (Service.stays_decrypt text)
    · refine Action.along_bind (stays_onMasker (Masker.along_accepts rule text)) fun accepted => ?_
      split
      · exact Action.along_pure _
      · exact Action.along_throw _

/-! ## Revealing -/

theorem onService_answer {α : Type} (a : Service.Step α) (c : Codec) :
    (onService a c).1 = (a c.service).1.mapError .envelope := by
  rw [onService, Action.mapError_apply, Action.on_apply]

/-- What is revealed depends on the terms alone. -/
theorem Under.reveal_eq (h : c.Under t) (h' : c'.Under t) (rule : MaskRule) (text : String) :
    (reveal rule text c).1 = (reveal rule text c').1 := by
  by_cases henvelope : Envelope.isEnvelope text
  · rw [reveal_of_isEnvelope henvelope, onService_answer, onService_answer,
      h.service.decrypt_eq h'.service]
  · have haccepts : (onMasker (Masker.accepts rule text) c).1 =
        (onMasker (Masker.accepts rule text) c').1 := by
      simp only [onMasker, Action.mapError_apply, Action.on_apply]
      rw [Masker.accepts_congr h.masker h'.masker]
    unfold reveal
    rw [if_neg henvelope]
    split
    · rfl
    · rw [Action.bind_answer, Action.bind_answer, haccepts]
      cases (onMasker (Masker.accepts rule text) c').1 with
      | error cause => rfl
      | ok accepted => cases accepted <;> rfl

theorem settled_reveal (t : Terms) :
    FieldRule.Settled reveal (Under t) fun _ new new' => new = new' where
  keeps rule text c hc := stays_reveal rule text c t hc
  agrees := by
    intro rule text c c' new hc hc' h
    exact ⟨new, (hc.reveal_eq hc' rule text).symm.trans h, rfl⟩

/-! ## Protecting -/

/-- What is answered is a sealing of the value with its mask. -/
theorem Under.exists_sealing (h : c.Under t) (hvalue : value ≠ "")
    (hprotect : (protect rule value c).1 = .ok wire) : ∃ shown,
      (Masker.mask rule value c.masker).1 = .ok shown ∧ Sealing t value shown wire := by
  obtain ⟨e, shown, hparse, hsuite, hmask, hshown⟩ :=
    exists_envelope_of_protect h.service.builtIn hvalue hprotect
  refine ⟨shown, hmask, ⟨e, hparse, hsuite.trans h.service.ask_eq⟩, hshown, fun s hs => ?_⟩
  obtain ⟨d, hd⟩ := Action.exists_state_of_fst hprotect
  have hafter : d.Under t := (stays_protect rule value).of_eq hd t h
  rw [hs.decrypt_eq hafter.service]
  exact Service.decrypt_of_readable hafter.service.builtIn
    (readable_of_protect h.service.builtIn hvalue hd)

/-- A value that one codec protects is protected by the other. -/
theorem Under.exists_protect (h : c.Under t) (h' : c'.Under t)
    (hprotect : (protect rule value c).1 = .ok wire) :
    ∃ wire', (protect rule value c').1 = .ok wire' := by
  by_cases hvalue : value = ""
  · rw [hvalue, protect_empty]
    exact ⟨"", rfl⟩
  · obtain ⟨e, shown, hencrypt, hmask, -⟩ := exists_toWire_of_protect hvalue hprotect
    have hmask' := (Masker.mask_congr h'.masker h.masker rule value).trans hmask
    obtain ⟨e', hencrypt'⟩ := h.service.exists_encrypt h'.service hencrypt
    exact ⟨_, protect_of_encrypt hvalue hmask' hencrypt'⟩

theorem settled_protect (t : Terms) : FieldRule.Settled protect (Under t) (Sealings t) where
  keeps rule value c hc := stays_protect rule value c t hc
  agrees := by
    intro rule value c c' wire hc hc' h
    obtain ⟨wire', h'⟩ := hc.exists_protect hc' h
    refine ⟨wire', h', ?_⟩
    by_cases hvalue : value = ""
    · subst hvalue
      rw [protect_empty] at h h'
      cases h
      cases h'
      exact .inl ⟨rfl, rfl, rfl⟩
    · obtain ⟨shown, hmask, hsealing⟩ := hc.exists_sealing hvalue h
      obtain ⟨shown', hmask', hsealing'⟩ := hc'.exists_sealing hvalue h'
      rw [Masker.mask_congr hc'.masker hc.masker, hmask] at hmask'
      cases hmask'
      exact .inr ⟨hvalue, shown, hsealing, hsealing'⟩

end Codec

namespace Document

variable {t : Terms} {c c' : Codec} {rules rules' : List FieldRule} {doc : Json}

theorem under_of_protectFields {doc' : Json} {d : Codec} (hc : c.Under t)
    (h : protectFields rules (doc, c) = (.ok (), doc', d)) : d.Under t := by
  have houtcome := FieldRule.outcome_applyAll Codec.protect rules doc c
  have hstays := houtcome.along Codec.stays_protect
  rw [show FieldRule.applyAll Codec.protect rules (doc, c) = _ from h] at hstays
  exact hstays t hc

/-- **The order of rules is free.** Let two codecs work under the same terms, and let no text of a
document be addressed by two of the rules. Take the rules in any other order.

- They reveal the document in one order with one codec exactly if they do in the other order with the
  other codec, and then what is left is the same document.
- They protect it in one order exactly if they do in the other. Then what is left has the same shape, and
  the same texts where no rule addresses them or they are empty. Any other text is sealed under the
  active suite in both, with the same mask, and opened to what it was. -/
theorem order_of_rules_is_free (hc : c.Under t) (hc' : c'.Under t) (hperm : rules.Perm rules')
    (hapart : Apart rules doc) :
    ((revealFields rules (doc, c)).1 = .ok () ↔ (revealFields rules' (doc, c')).1 = .ok ()) ∧
    (∀ doc₁ doc₂ d d', revealFields rules (doc, c) = (.ok (), doc₁, d) →
      revealFields rules' (doc, c') = (.ok (), doc₂, d') → doc₁ = doc₂) ∧
    ((protectFields rules (doc, c)).1 = .ok () ↔ (protectFields rules' (doc, c')).1 = .ok ()) ∧
    ∀ doc₁ doc₂ d d', protectFields rules (doc, c) = (.ok (), doc₁, d) →
      protectFields rules' (doc, c') = (.ok (), doc₂, d') →
      d.Under t ∧ d'.Under t ∧ (∀ place, doc₁.node? place = doc₂.node? place) ∧
      ∀ place text, doc.textAt? place = some text →
        (text = "" ∨ (∀ field ∈ rules, ¬Addresses (Path.parse field.path) doc place) →
          doc₁.textAt? place = some text ∧ doc₂.textAt? place = some text) ∧
        (text ≠ "" → (∃ field ∈ rules, Addresses (Path.parse field.path) doc place) →
          ∃ shown wire wire', Sealing t text shown wire ∧ Sealing t text shown wire' ∧
            doc₁.textAt? place = some wire ∧ doc₂.textAt? place = some wire') := by
  have hreveal := Codec.settled_reveal t
  have hprotect := Codec.settled_protect t
  refine ⟨hreveal.succeeds_iff hc hc' hperm hapart, ?_, hprotect.succeeds_iff hc hc' hperm hapart, ?_⟩
  · intro doc₁ doc₂ d d' h h'
    obtain ⟨_, _, hrun, hshape, htexts⟩ := hreveal.reorder hc hc' hperm hapart h
    cases hrun.symm.trans h'
    refine Json.eq_of_node?_of_textAt? (fun place => (hshape place).symm) fun place => ?_
    cases htext : doc.textAt? place with
    | none =>
      rw [FieldRule.textAt?_eq_none_of_applyAll h htext,
        FieldRule.textAt?_eq_none_of_applyAll h' htext]
    | some text =>
      rcases htexts place text htext with ⟨-, hsame, hsame'⟩ | ⟨-, _, _, rfl, hnew, hnew'⟩
      · rw [hsame, hsame']
      · rw [hnew, hnew']
  · intro doc₁ doc₂ d d' h h'
    obtain ⟨_, _, hrun, hshape, htexts⟩ := hprotect.reorder hc hc' hperm hapart h
    cases hrun.symm.trans h'
    refine ⟨?_, ?_, fun place => (hshape place).symm, fun place text htext => ⟨?_, ?_⟩⟩
    · exact under_of_protectFields hc h
    · exact under_of_protectFields hc' h'
    · intro hplain
      rcases htexts place text htext with ⟨-, hsame⟩ | ⟨haddressed, new, new', hnew, hnews⟩
      · exact hsame
      · rcases hnew with ⟨rfl, rfl, rfl⟩ | ⟨hne, -⟩
        · exact hnews
        · obtain ⟨field, hfield, hreach⟩ := haddressed
          exact absurd hreach (hplain.resolve_left hne field hfield)
    · rintro hne ⟨field, hfield, hreach⟩
      rcases htexts place text htext with ⟨hnone, -⟩ | ⟨-, new, new', hnew, hnews⟩
      · exact absurd hreach (hnone field hfield)
      · rcases hnew with ⟨hempty, -⟩ | ⟨-, shown, hsealing, hsealing'⟩
        · exact absurd hempty hne
        · exact ⟨shown, new, new', hsealing, hsealing', hnews⟩

/-- Rules for two members of the same items, applied in both orders by codecs with different random
bytes, seal both members. -/
theorem swapped_rules_protect_alike :
    let keys : KeyPair := { encryption := some ⟨List.replicate 32 1⟩ }
    let t : Terms := ⟨fun _ => .ok keys, .modern, fun suite => suite = .modern⟩
    let codec := fun byte => Session.start [.modern] (.always .modern) (.ofPairs fun _ => some keys)
      ⟨⟨fun _ => byte, 0⟩, []⟩
    let first : FieldRule := ⟨"a[].x", .custom 1 0 "" false⟩
    let second : FieldRule := ⟨"a.[].y", .custom 0 2 "" false⟩
    let doc : Json := .object [("a", .array [.object [("x", .string "xx"), ("y", .string "yyy")]])]
    ((codec 0).Under t ∧ (codec 1).Under t) ∧ [first, second].Perm [second, first] ∧
      Apart [first, second] doc ∧
      ∃ doc₁ doc₂ d d', protectFields [first, second] (doc, codec 0) = (.ok (), doc₁, d) ∧
        protectFields [second, first] (doc, codec 1) = (.ok (), doc₂, d') ∧
        ∀ place text, (place, text) ∈ [([0, 0, 0], "xx"), ([0, 0, 1], "yyy")] →
          ∃ shown wire wire', Sealing t text shown wire ∧ Sealing t text shown wire' ∧
            doc₁.textAt? place = some wire ∧ doc₂.textAt? place = some wire' := by
  intro keys t codec first second doc
  have hunder : ∀ byte, (codec byte).Under t := by
    intro byte
    refine ⟨⟨Session.builtIn_start _ _ _ _, rfl, fun _ => rfl, fun suite => ?_⟩,
      Masker.faithful_empty⟩
    cases suite with
    | gm =>
      refine ⟨fun h => ?_, nofun⟩
      rcases h with h | h <;> cases h
    | modern => exact ⟨fun _ => rfl, fun _ => .inr rfl⟩
  have hperm : [first, second].Perm [second, first] := List.Perm.swap _ _ _
  have hfirst : ∀ place, Addresses (Path.parse first.path) doc place ↔ place = [0, 0, 0] := by
    intro place
    have hreach : reach (Path.parse first.path) doc = [[0, 0, 0]] := by decide +kernel
    rw [← mem_reach_iff, hreach, List.mem_singleton]
  have hsecond : ∀ place, Addresses (Path.parse second.path) doc place ↔ place = [0, 0, 1] := by
    intro place
    have hreach : reach (Path.parse second.path) doc = [[0, 0, 1]] := by decide +kernel
    rw [← mem_reach_iff, hreach, List.mem_singleton]
  have hapart : Apart [first, second] doc := by
    refine List.pairwise_pair.2 fun place h => ?_
    rw [hfirst, hsecond] at h
    exact absurd (h.1.symm.trans h.2) (by decide)
  have hok : (protectFields [first, second] (doc, codec 0)).1 = .ok () := by decide +kernel
  obtain ⟨-, -, hiff, hsealed⟩ := order_of_rules_is_free (hunder 0) (hunder 1) hperm hapart
  obtain ⟨⟨doc₁, d⟩, hrun⟩ := Action.exists_state_of_fst hok
  obtain ⟨⟨doc₂, d'⟩, hrun'⟩ := Action.exists_state_of_fst (hiff.1 hok)
  obtain ⟨-, -, -, htexts⟩ := hsealed doc₁ doc₂ d d' hrun hrun'
  refine ⟨⟨hunder 0, hunder 1⟩, hperm, hapart, doc₁, doc₂, d, d', hrun, hrun', ?_⟩
  intro place text hmem
  simp only [List.mem_cons, Prod.mk.injEq, List.not_mem_nil, or_false] at hmem
  rcases hmem with ⟨rfl, rfl⟩ | ⟨rfl, rfl⟩
  · exact (htexts [0, 0, 0] "xx" (by decide +kernel)).2 (by decide)
      ⟨first, by simp, (hfirst _).2 rfl⟩
  · exact (htexts [0, 0, 1] "yyy" (by decide +kernel)).2 (by decide)
      ⟨second, by simp, (hsecond _).2 rfl⟩

end Document

end FieldSeal

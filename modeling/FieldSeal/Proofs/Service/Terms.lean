import FieldSeal.Proofs.Service.Fault

/-!
# What settles the answers of a service

**Terms.** Under given keys, with a policy that never changes its answer and with the suites that are on
offer, a service with built-in sealers is `Under` terms. Sealing and opening leave it under the same
terms (`stays_encrypt`, `stays_decrypt`).

**Answers.** Two services under the same terms open the same texts, with the same results
(`Under.decrypt_eq`), and seal the same texts (`Under.exists_encrypt`). Their bindings, events and
random bytes may differ, and then so do their nonces.
-/

namespace FieldSeal

/-- Keys, the active suite and the suites on offer. -/
structure Terms where
  keys : Suite → Except EnvelopeError KeyPair
  active : Suite
  offered : Suite → Prop

namespace Service

variable {s s' : Service} {t : Terms} {text wire : String} {e : Envelope}

/-- The sealers are built in, the keys are given, and the policy always gives the same answer. -/
structure Under (t : Terms) (s : Service) : Prop where
  builtIn : s.BuiltIn
  keys : s.supply = .fixed t.keys
  active : ∀ n, s.policy.answer n = t.active
  offered : ∀ suite, s.Offers suite ↔ t.offered suite

/-- Whatever terms the first service is under, the second one is under them too. -/
def Stays (s s' : Service) : Prop := ∀ t : Terms, s.Under t → s'.Under t

instance : IsPreorder Service Stays where
  refl _ _ h := h
  trans _ _ _ h h' t := h' t ∘ h t

/-! ## Steps -/

/-- A step that changes neither sealers nor bindings. -/
theorem stays_of_sameBindings (h : SameBindings s s') (hfollows : Follows s s')
    (hpolicy : s'.policy.answer = s.policy.answer)
    (hkeys : ∀ keys, s.supply = .fixed keys → s'.supply = .fixed keys) : Stays s s' := by
  intro t hs
  refine ⟨hfollows.builtIn hs.builtIn, hkeys _ hs.keys, fun n => ?_, fun suite => ?_⟩
  · rw [hpolicy, hs.active]
  · rw [← hs.offered, Offers, Offers, h.kept?, h.registry]

theorem stays_report (e : Event) : Action.Along Stays (report e) := fun s =>
  stays_of_sameBindings (sameBindings_report e s) (along_report e s) rfl fun _ h => h

theorem stays_onEntropy {α : Type} (a : Action Entropy EnvelopeError α) :
    Action.Along Stays (onEntropy a) := fun s =>
  stays_of_sameBindings (sameBindings_onEntropy a s) (along_onEntropy a s) rfl fun _ h => h

theorem stays_activeSuite : Action.Along Stays activeSuite := fun s =>
  stays_of_sameBindings (sameBindings_activeSuite s) (along_activeSuite s) rfl fun _ h => h

theorem stays_pairFor (suite : Suite) : Action.Along Stays (pairFor suite) := by
  intro s
  refine stays_of_sameBindings (sameBindings_pairFor suite s) (along_pairFor suite s) rfl
    fun keys hkeys => ?_
  rw [pairFor, Action.on_apply, hkeys]
  rfl

theorem stays_bindingFor (suite : Suite) : Action.Along Stays (bindingFor suite) := by
  intro s t hs
  have hfollows := along_bindingFor suite s
  rcases bindingFor_cases suite s with ⟨kept, -, hrun⟩ | ⟨sealer, -, hsealer, hrun⟩ | ⟨-, -, hrun⟩
  · rw [hrun]
    exact hs
  · rw [hrun] at hfollows ⊢
    refine ⟨hfollows.builtIn hs.builtIn, hs.keys, hs.active, fun other => ?_⟩
    rw [← hs.offered]
    refine ⟨fun hoffers => ?_, hfollows.offers other⟩
    -- The suite that was newly bound is registered.
    by_cases hother : other = suite
    · exact .inr (hother ▸ Option.isSome_of_eq_some hsealer)
    · simpa only [Offers, keep, if_neg hother] using hoffers
  · rw [hrun]
    exact hs

theorem stays_encrypt (text : String) : Action.Along Stays (encrypt text) := by
  refine Action.along_bind stays_activeSuite fun suite => ?_
  refine Action.along_bind (stays_bindingFor suite) fun kept => ?_
  refine Action.along_bind (stays_pairFor suite) fun keys => ?_
  refine Action.along_bind (stays_onEntropy _) fun envelope => ?_
  refine Action.along_bind (stays_report _) fun _ => ?_
  exact Action.along_pure envelope

theorem stays_encryptWithMask (text mask : String) :
    Action.Along Stays (encryptWithMask text mask) := by
  refine Action.along_bind (stays_encrypt text) fun envelope => ?_
  exact Action.along_ofExcept _

theorem stays_decrypt (wire : String) : Action.Along Stays (decrypt wire) := by
  refine Action.along_bind (Action.along_ofExcept _) fun e => ?_
  refine Action.along_bind (stays_pairFor e.suite) fun keys => ?_
  refine Action.along_bind (stays_bindingFor e.suite) fun kept => ?_
  split
  · refine Action.along_bind (stays_report _) fun _ => ?_
    exact Action.along_pure _
  · refine Action.along_bind (stays_report _) fun _ => ?_
    exact Action.along_throw _
  · exact Action.along_throw _

/-! ## Answers -/

theorem Under.pairFor_eq (h : s.Under t) (suite : Suite) : (pairFor suite s).1 = t.keys suite := by
  rw [pairFor, Action.on_apply, h.keys]
  rfl

theorem Under.ask_eq (h : s.Under t) : s.policy.ask.1 = t.active := h.active _

/-- The same texts are opened, with the same results. -/
theorem Under.decrypt_eq (h : s.Under t) (h' : s'.Under t) (wire : String) :
    (decrypt wire s).1 = (decrypt wire s').1 := by
  cases hparse : Envelope.parse wire with
  | error cause =>
    have hofExcept : ∀ s : Service,
        (Action.ofExcept (Envelope.parse wire) : Step Envelope) s = (.error cause, s) := by
      intro s
      rw [Action.ofExcept_apply, hparse]
    rw [decrypt, Action.bind_of_error (hofExcept s), Action.bind_of_error (hofExcept s')]
  | ok e =>
    obtain ⟨hopened, hrefused⟩ := Service.decrypt_eq h.builtIn hparse
    obtain ⟨hopened', hrefused'⟩ := Service.decrypt_eq h'.builtIn hparse
    by_cases hoffered : t.offered e.suite
    · rw [hopened ((h.offered _).2 hoffered), hopened' ((h'.offered _).2 hoffered), openedBy,
        openedBy, h.pairFor_eq, h'.pairFor_eq]
    · rw [hrefused fun hoffers => hoffered ((h.offered _).1 hoffers),
        hrefused' fun hoffers => hoffered ((h'.offered _).1 hoffers), h.pairFor_eq, h'.pairFor_eq]

/-- The same texts are sealed. -/
theorem Under.exists_encrypt (h : s.Under t) (h' : s'.Under t)
    (he : (encrypt text s).1 = .ok e) : ∃ e', (encrypt text s').1 = .ok e' := by
  have hoffers : s.Offers s.policy.ask.1 := by
    by_contra hnot
    rw [encrypt_of_not_offers hnot] at he
    cases he
  have hoffers' : s'.Offers s'.policy.ask.1 := by
    rwa [h'.offered, h'.ask_eq, ← h.ask_eq, ← h.offered]
  cases hkeys : t.keys t.active with
  | error cause =>
    obtain ⟨kept, hfound, -⟩ := found?_of_offers h.builtIn hoffers
    rw [encrypt_of_found text hfound, sealedBy, h.pairFor_eq, h.ask_eq, hkeys] at he
    cases he
  | ok pair =>
    obtain ⟨entropy, hsealed⟩ := encrypt_eq h.builtIn hoffers
      ((h.pairFor_eq _).trans (h.ask_eq ▸ hkeys)) text
    obtain ⟨entropy', hsealed'⟩ := encrypt_eq h'.builtIn hoffers'
      ((h'.pairFor_eq _).trans (h'.ask_eq ▸ hkeys)) text
    rw [hsealed, h.ask_eq] at he
    rw [hsealed', h'.ask_eq]
    -- What stands in the way of sealing does not depend on the random bytes.
    exact (Sealer.meets_encrypt t.active pair text entropy').exists_ok_iff.2
      ((Sealer.meets_encrypt t.active pair text entropy).exists_ok_iff.1 ⟨e, he⟩)

end Service

end FieldSeal

import FieldSeal.Action
import Mathlib.Order.Defs.Unbundled

/-!
# What actions do to their state

**Outcomes.** Each way to build an action has an equation that gives the outcome and the state after
it. A sequence of two steps stops where the first one fails, and `bind_eq_ok_iff` reads a successful
sequence as two successful steps.

**Progress** (`Along`). An action moves *along* a relation when the state before and the state after
are related, whether the action succeeds or fails. For a reflexive and transitive relation this
passes from the parts of an action to the whole, so that what a service keeps is shown once for each
elementary step and then holds of every composition.
-/

namespace FieldSeal

variable {σ τ ε δ α β : Type}

theorem except_ok_bind (x : α) (f : α → Except ε β) : (Except.ok x >>= f) = f x := rfl

theorem except_bind_eq_ok_iff {a : Except ε α} {f : α → Except ε β} {y : β} :
    a >>= f = .ok y ↔ ∃ x, a = .ok x ∧ f x = .ok y := by
  cases a with
  | error e =>
    refine ⟨?_, ?_⟩
    · intro h
      cases h
    · intro h
      obtain ⟨x, h, -⟩ := h
      cases h
  | ok x =>
    refine ⟨?_, ?_⟩
    · intro h
      exact ⟨x, rfl, h⟩
    · intro h
      obtain ⟨_, ⟨rfl⟩, h⟩ := h
      exact h

theorem except_isOk_iff {a : Except ε α} : a.isOk ↔ ∃ x, a = .ok x := by
  cases a <;> simp [Except.isOk, Except.toBool]

theorem except_toOption_eq_some_iff {a : Except ε α} {x : α} :
    a.toOption = some x ↔ a = .ok x := by
  cases a <;> simp [Except.toOption]

namespace Action

/-! ## Outcomes -/

@[simp] theorem pure_apply (x : α) (s : σ) : (pure x : Action σ ε α) s = (.ok x, s) := rfl

@[simp] theorem throw_apply (e : ε) (s : σ) : (throw e : Action σ ε α) s = (.error e, s) := rfl

@[simp] theorem ofExcept_apply (r : Except ε α) (s : σ) : ofExcept r s = (r, s) := rfl

@[simp] theorem total_apply (f : σ → α × σ) (s : σ) :
    (total f : Action σ ε α) s = (.ok (f s).1, (f s).2) := rfl

@[simp] theorem on_apply (part : σ → τ) (replace : τ → σ → σ) (a : Action τ ε α) (s : σ) :
    on part replace a s = ((a (part s)).1, replace (a (part s)).2 s) := rfl

theorem bind_apply (a : Action σ ε α) (f : α → Action σ ε β) (s : σ) :
    (a >>= f) s =
      match a s with
      | (.ok x, t) => f x t
      | (.error e, t) => (.error e, t) := by
  show (match (a s).1 with
    | .ok x => f x
    | .error e => fun t => (.error e, t)) (a s).2 = _
  obtain ⟨r, t⟩ := a s
  cases r <;> rfl

theorem bind_of_ok {a : Action σ ε α} {s t : σ} {x : α} (h : a s = (.ok x, t))
    (f : α → Action σ ε β) : (a >>= f) s = f x t := by rw [bind_apply, h]

theorem bind_of_error {a : Action σ ε α} {s t : σ} {e : ε} (h : a s = (.error e, t))
    (f : α → Action σ ε β) : (a >>= f) s = (.error e, t) := by rw [bind_apply, h]

/-- The answer of a sequence is that of its second step, in the state that the first one leaves. -/
theorem bind_answer (a : Action σ ε α) (f : α → Action σ ε β) (s : σ) :
    ((a >>= f) s).1 = (a s).1 >>= fun x => (f x (a s).2).1 := by
  rw [bind_apply]
  rcases a s with ⟨result, t⟩
  cases result <;> rfl

theorem bind_eq_ok_iff {a : Action σ ε α} {f : α → Action σ ε β} {s u : σ} {y : β} :
    (a >>= f) s = (.ok y, u) ↔ ∃ x t, a s = (.ok x, t) ∧ f x t = (.ok y, u) := by
  refine ⟨?_, ?_⟩
  · intro h
    rw [bind_apply] at h
    split at h
    · next x t ha => exact ⟨x, t, ha, h⟩
    · cases h
  · intro h
    obtain ⟨x, t, ha, hf⟩ := h
    rw [bind_of_ok ha, hf]

theorem map_apply (f : α → β) (a : Action σ ε α) (s : σ) :
    (f <$> a) s = ((a s).1.map f, (a s).2) := by
  rw [← bind_pure_comp, bind_apply]
  obtain ⟨r, t⟩ := a s
  cases r <;> rfl

theorem bind_ofExcept_apply (a : Action σ ε α) (f : α → Except ε β) (s : σ) :
    (a >>= fun x => ofExcept (f x)) s = ((a s).1.bind f, (a s).2) := by
  rw [bind_apply]
  obtain ⟨r, t⟩ := a s
  cases r <;> rfl

theorem mapError_apply (f : ε → δ) (a : Action σ ε α) (s : σ) :
    mapError f a s = ((a s).1.mapError f, (a s).2) := by
  rw [mapError]
  obtain ⟨r, t⟩ := a s
  cases r <;> rfl

theorem exists_state_of_fst {a : Action σ ε α} {s : σ} {x : α} (h : (a s).1 = .ok x) :
    ∃ t, a s = (.ok x, t) := ⟨(a s).2, Prod.ext h rfl⟩

theorem mapError_eq_ok_iff {a : Action σ ε α} {f : ε → δ} {s t : σ} {x : α} :
    mapError f a s = (.ok x, t) ↔ a s = (.ok x, t) := by
  unfold mapError
  obtain ⟨r, u⟩ := a s
  cases r with
  | ok y => constructor <;> intro h <;> cases h <;> rfl
  | error e => constructor <;> intro h <;> cases h

theorem on_eq_ok_iff {part : σ → τ} {replace : τ → σ → σ} {a : Action τ ε α} {s s' : σ} {x : α} :
    on part replace a s = (.ok x, s') ↔
      ∃ t, a (part s) = (.ok x, t) ∧ replace t s = s' := by
  rw [on_apply, Prod.mk.injEq]
  refine ⟨?_, ?_⟩
  · intro h
    obtain ⟨hx, rfl⟩ := h
    exact ⟨_, Prod.ext hx rfl, rfl⟩
  · intro h
    obtain ⟨t, ht, rfl⟩ := h
    rw [ht]
    exact ⟨rfl, rfl⟩

/-! ## Sequences -/

section Sequences

/-- One action after another, up to the first failure. -/
def each (f : α → Action σ ε Unit) (xs : List α) : Action σ ε Unit := forM xs f

variable {f : α → Action σ ε Unit} {s t : σ} {x : α}

theorem each_nil (f : α → Action σ ε Unit) (s : σ) : each f [] s = (.ok (), s) := rfl

theorem each_cons (f : α → Action σ ε Unit) (x : α) (xs : List α) :
    each f (x :: xs) = f x >>= fun _ => each f xs := List.forM_cons

theorem each_cons_of_ok (h : f x s = (.ok (), t)) (xs : List α) :
    each f (x :: xs) s = each f xs t := by rw [each_cons, bind_of_ok h]

theorem each_cons_of_error {e : ε} (h : f x s = (.error e, t)) (xs : List α) :
    each f (x :: xs) s = (.error e, t) := by rw [each_cons, bind_of_error h]

theorem each_singleton (f : α → Action σ ε Unit) (x : α) (s : σ) : each f [x] s = f x s := by
  rcases h : f x s with ⟨result, t⟩
  cases result with
  | error e => rw [each_cons_of_error h]
  | ok => rw [each_cons_of_ok h, each_nil]

theorem each_append (f : α → Action σ ε Unit) (xs ys : List α) :
    each f (xs ++ ys) = each f xs >>= fun _ => each f ys := List.forM_append

theorem each_map {γ : Type} (f : α → Action σ ε Unit) (g : γ → α) (xs : List γ) :
    each f (xs.map g) = each (fun x => f (g x)) xs := List.forM_map

theorem each_cons_eq_ok_iff {xs : List α} {u : σ} :
    each f (x :: xs) s = (.ok (), u) ↔ ∃ t, f x s = (.ok (), t) ∧ each f xs t = (.ok (), u) := by
  rw [each_cons, bind_eq_ok_iff]
  refine ⟨?_, ?_⟩
  · intro h
    obtain ⟨_, t, hx, hxs⟩ := h
    exact ⟨t, hx, hxs⟩
  · intro h
    obtain ⟨t, hx, hxs⟩ := h
    exact ⟨(), t, hx, hxs⟩

end Sequences

/-! ## Progress -/

/-- Every run of the action leads from a state to a related one. -/
def Along (R : σ → σ → Prop) (a : Action σ ε α) : Prop := ∀ s, R s (a s).2

theorem Along.of_eq {R : σ → σ → Prop} {a : Action σ ε α} (h : Along R a) {s t : σ}
    {result : Except ε α} (ha : a s = (result, t)) : R s t := by
  have hs := h s
  rwa [ha] at hs

theorem along_ofExcept {R : σ → σ → Prop} [Std.Refl R] (r : Except ε α) : Along R (ofExcept r) :=
  Std.Refl.refl

theorem along_pure {R : σ → σ → Prop} [Std.Refl R] (x : α) : Along R (pure x : Action σ ε α) :=
  Std.Refl.refl

theorem along_throw {R : σ → σ → Prop} [Std.Refl R] (e : ε) : Along R (throw e : Action σ ε α) :=
  Std.Refl.refl

theorem along_bind {R : σ → σ → Prop} [IsTrans σ R] {a : Action σ ε α} {f : α → Action σ ε β}
    (ha : Along R a) (hf : ∀ x, Along R (f x)) : Along R (a >>= f) := by
  intro s
  have h := ha s
  rw [bind_apply]
  split
  · next x t hx =>
    rw [hx] at h
    exact IsTrans.trans _ _ _ h (hf x t)
  · next e t he => rwa [he] at h

theorem along_mapError {R : σ → σ → Prop} {a : Action σ ε α} (f : ε → δ) (ha : Along R a) :
    Along R (mapError f a) := by
  intro s
  have h := ha s
  unfold mapError
  split
  · next hx => rwa [hx] at h
  · next he => rwa [he] at h

/-- An action on a part of the state moves the whole as it moves the part. -/
theorem along_on {R : σ → σ → Prop} {Q : τ → τ → Prop} {part : σ → τ} {replace : τ → σ → σ}
    {a : Action τ ε α} (ha : Along Q a) (lift : ∀ s t, Q (part s) t → R s (replace t s)) :
    Along R (on part replace a) := fun s => lift s _ (ha (part s))

end Action

end FieldSeal

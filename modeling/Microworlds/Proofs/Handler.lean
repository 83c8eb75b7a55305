import Microworlds.Handler
import Mathlib.Tactic.Lemma

/-!
# Handlers that take nothing back

A handler that fails keeps what it has changed. A failure leaves no trace if every check of the handler
comes before its first change: an action that only reads, followed by an action that cannot fail.
-/

namespace Microworlds.Proofs

variable {ε δ σ τ α β : Type}

/-- A failure leaves the state as it was. -/
def Atomic (m : Handler ε σ α) : Prop :=
  ∀ s e s', m s = .error e s' → s' = s

/-- A success leaves the state as it was, and so does a failure. -/
structure Reads (m : Handler ε σ α) : Prop where
  ok : ∀ s a s', m s = .ok a s' → s' = s
  error : Atomic m

/-- The action cannot fail. -/
def Total (m : Handler ε σ α) : Prop :=
  ∀ s e s', m s ≠ .error e s'

lemma bind_error {m : Handler ε σ α} {f : α → Handler ε σ β} {s s' : σ} {e : ε}
    (h : (m >>= f) s = .error e s') :
    m s = .error e s' ∨ ∃ a t, m s = .ok a t ∧ f a t = .error e s' := by
  change EStateM.bind m f s = _ at h
  unfold EStateM.bind at h
  split at h
  · next a t hm => exact .inr ⟨a, t, hm, h⟩
  · next e' t hm => cases h; exact .inl hm

lemma Total.atomic {m : Handler ε σ α} (hm : Total m) : Atomic m :=
  fun s e s' h => absurd h (hm s e s')

lemma Total.bind {m : Handler ε σ α} {f : α → Handler ε σ β} (hm : Total m)
    (hf : ∀ a, Total (f a)) : Total (m >>= f) := by
  intro s e s' h
  obtain h | ⟨a, t, -, h⟩ := bind_error h
  · exact hm s e s' h
  · exact hf a t e s' h

lemma Reads.bind {m : Handler ε σ α} {f : α → Handler ε σ β} (hm : Reads m)
    (hf : ∀ a, Atomic (f a)) : Atomic (m >>= f) := by
  intro s e s' h
  obtain h | ⟨a, t, ha, h⟩ := bind_error h
  · exact hm.error s e s' h
  · rw [hf a t e s' h, hm.ok s a t ha]

/-- After the last check nothing can fail any more. -/
lemma Atomic.bind {m : Handler ε σ α} {f : α → Handler ε σ β} (hm : Atomic m)
    (hf : ∀ a, Total (f a)) : Atomic (m >>= f) := by
  intro s e s' h
  obtain h | ⟨a, t, -, h⟩ := bind_error h
  · exact hm s e s' h
  · exact absurd h (hf a t e s')

lemma total_pure (a : α) : Total (pure a : Handler ε σ α) := by
  intro s e s' h
  cases h

lemma total_modify (f : σ → σ) : Total (modify f : Handler ε σ PUnit) := by
  intro s e s' h
  cases h

lemma atomic_change (f : σ → σ) (a : α) :
    Atomic (modify f >>= fun _ => pure a : Handler ε σ α) :=
  ((total_modify f).bind fun _ => total_pure a).atomic

lemma total_set (t : σ) : Total (set t : Handler ε σ PUnit) := by
  intro s e s' h
  cases h

lemma total_get : Total (get : Handler ε σ σ) := by
  intro s e s' h
  cases h

lemma reads_get : Reads (get : Handler ε σ σ) where
  ok s a s' h := by cases h; rfl
  error := total_get.atomic

lemma reads_throw (e : ε) : Reads (throw e : Handler ε σ α) where
  ok s a s' h := by cases h
  error s e' s' h := by cases h; rfl

lemma reads_pure (a : α) : Reads (pure a : Handler ε σ α) where
  ok s b s' h := by cases h; rfl
  error := (total_pure a).atomic

lemma reads_stopIf (condition : Bool) (e : ε) :
    Reads (Handler.stopIf condition e : Handler ε σ Unit) := by
  unfold Handler.stopIf
  split
  · exact reads_throw e
  · exact reads_pure ()

lemma reads_check (stop : ε → δ) (c : Except ε α) :
    Reads (Handler.check stop c : Handler δ σ α) := by
  cases c with
  | ok a => exact reads_pure a
  | error e => exact reads_throw (stop e)

lemma reads_liftM (c : Except ε α) : Reads (liftM c : Handler ε σ α) := by
  cases c with
  | ok a => exact reads_pure a
  | error e => exact reads_throw e

lemma reads_required (e : ε) (o : Option α) : Reads (Handler.required e o : Handler ε σ α) := by
  cases o with
  | some a => exact reads_pure a
  | none => exact reads_throw e

/-- A value is taken away before it is known whether it is there. That leaves no trace if nothing is
taken away when it is not there. -/
lemma atomic_take {take : σ → Option α × σ} (e : ε) (f : α → β)
    (h : ∀ s, (take s).1 = none → (take s).2 = s) :
    Atomic (do let a ← Handler.required e (← modifyGet take); return f a : Handler ε σ β) := by
  intro s e' s' hrun
  obtain htake | ⟨taken, t, htake, hrun⟩ := bind_error hrun
  · cases htake
  cases htake
  obtain hnone | ⟨a, t, -, hrun⟩ := bind_error hrun
  · cases hpart : (take s).1 with
    | none =>
      rw [hpart] at hnone
      cases hnone
      exact h s hpart
    | some a =>
      rw [hpart] at hnone
      cases hnone
  · cases hrun

lemma Atomic.adaptExcept {m : Handler ε σ α} (hm : Atomic m) (stop : ε → δ) :
    Atomic (m.adaptExcept stop) := by
  intro s e s' h
  unfold EStateM.adaptExcept at h
  split at h
  · next e' t hm' => cases h; exact hm s e' s' hm'
  · cases h

/-- An atomic action on a part is atomic on the whole, provided that the part put back is the part. -/
lemma Atomic.on {m : Handler ε τ α} (hm : Atomic m) {part : σ → τ} {put : σ → τ → σ}
    (hput : ∀ s, put s (part s) = s) : Atomic (m.on part put) := by
  intro s e s' h
  unfold Handler.on at h
  split at h
  · cases h
  · next e' t hm' =>
    cases h
    rw [hm _ _ _ hm', hput]

lemma Atomic.within {m : Handler ε τ α} (hm : Atomic m) {wrap : τ → σ} {stop : ε → δ} {start : τ}
    {e : δ} {s' : σ} (h : m.within wrap stop start = .error e s') : s' = wrap start := by
  unfold Handler.within at h
  split at h
  · cases h
  · next e' t hm' =>
    cases h
    rw [hm _ _ _ hm']

/-! ### What a success has gone through -/

lemma bind_ok {m : Handler ε σ α} {f : α → Handler ε σ β} {s s' : σ} {b : β}
    (h : (m >>= f) s = .ok b s') : ∃ a t, m s = .ok a t ∧ f a t = .ok b s' := by
  change EStateM.bind m f s = _ at h
  unfold EStateM.bind at h
  split at h
  · next a t hm => exact ⟨a, t, hm, h⟩
  · cases h

lemma bind_get_ok {f : σ → Handler ε σ β} {s s' : σ} {b : β} (h : (get >>= f) s = .ok b s') :
    f s s = .ok b s' := h

lemma bind_stopIf_ok {condition : Bool} {e : ε} {f : Unit → Handler ε σ β} {s s' : σ} {b : β}
    (h : (Handler.stopIf condition e >>= f) s = .ok b s') :
    condition = false ∧ f () s = .ok b s' := by
  cases condition with
  | true => cases h
  | false => exact ⟨rfl, h⟩

lemma bind_liftM_ok {c : Except ε α} {f : α → Handler ε σ β} {s s' : σ} {b : β}
    (h : (liftM c >>= f) s = .ok b s') : ∃ a, c = .ok a ∧ f a s = .ok b s' := by
  cases c with
  | ok a => exact ⟨a, rfl, h⟩
  | error e => cases h

lemma bind_eq_ok {c : Except ε α} {f : α → Except ε β} {b : β} :
    c >>= f = .ok b ↔ ∃ a, c = .ok a ∧ f a = .ok b := by
  cases c with
  | error e => exact ⟨nofun, nofun⟩
  | ok a => exact ⟨fun h => ⟨a, rfl, h⟩, fun ⟨_, ha, h⟩ => by cases ha; exact h⟩

lemma bind_eq_error {c : Except ε α} {f : α → Except ε β} {e : ε} :
    c >>= f = .error e ↔ c = .error e ∨ ∃ a, c = .ok a ∧ f a = .error e := by
  cases c with
  | error other =>
    refine ⟨fun h => .inl (by cases h; rfl), ?_⟩
    rintro (h | ⟨_, h, -⟩) <;> cases h
    rfl
  | ok a =>
    refine ⟨fun h => .inr ⟨a, rfl, h⟩, ?_⟩
    rintro (h | ⟨_, ha, h⟩)
    · cases h
    · cases ha
      exact h

lemma bind_check_ok {c : Except ε α} {stop : ε → δ} {f : α → Handler δ σ β} {s s' : σ} {b : β}
    (h : (Handler.check stop c >>= f) s = .ok b s') : ∃ a, c = .ok a ∧ f a s = .ok b s' := by
  cases c with
  | ok a => exact ⟨a, rfl, h⟩
  | error e => cases h

lemma bind_required_ok {o : Option α} {e : ε} {f : α → Handler ε σ β} {s s' : σ} {b : β}
    (h : (Handler.required e o >>= f) s = .ok b s') : ∃ a, o = some a ∧ f a s = .ok b s' := by
  cases o with
  | some a => exact ⟨a, rfl, h⟩
  | none => cases h

lemma on_ok {m : Handler ε τ α} {part : σ → τ} {put : σ → τ → σ} {s s' : σ} {a : α}
    (h : (m.on part put) s = .ok a s') : ∃ t, m (part s) = .ok a t ∧ s' = put s t := by
  unfold Handler.on at h
  split at h
  · next b t hm => cases h; exact ⟨t, hm, rfl⟩
  · cases h

/-! ### How a check ends a handler or lets it go on -/

lemma run_get (f : σ → Handler ε σ β) (s : σ) : (get >>= f) s = f s s := rfl

lemma run_liftM (c : Except ε α) (f : α → Handler ε σ β) (s : σ) :
    (liftM c >>= f) s =
      match c with
      | .ok a => f a s
      | .error e => .error e s := by
  cases c <;> rfl

lemma run_stopIf (condition : Bool) (e : ε) (f : Unit → Handler ε σ β) (s : σ) :
    (Handler.stopIf condition e >>= f) s = if condition then .error e s else f () s := by
  cases condition <;> rfl

end Microworlds.Proofs

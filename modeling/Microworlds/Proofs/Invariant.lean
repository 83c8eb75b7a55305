import Microworlds.Handler
import Mathlib.Tactic.Lemma

/-!
# What handlers keep

A property of the state that holds after every success if it held before. The errors that can come out
as long as it holds have a property of their own.
-/

namespace Microworlds.Proofs

variable {ε δ σ τ α β : Type}

/-- A success leaves a state of one kind, and an error is of one kind. -/
def Ends (keeps : σ → Prop) (fails : ε → Prop) : EStateM.Result ε σ α → Prop
  | .ok _ state => keeps state
  | .error e _ => fails e

/-- From a state of a kind the handler comes to another of the same kind, or to an error of a kind. -/
def Keeps (keeps : σ → Prop) (fails : ε → Prop) (m : Handler ε σ α) : Prop :=
  ∀ state, keeps state → Ends keeps fails (m state)

variable {keeps : σ → Prop} {fails : ε → Prop}

lemma keeps_true (m : Handler ε σ α) : Keeps (fun _ => True) (fun _ => True) m := by
  intro state _
  cases m state <;> trivial

lemma keeps_pure (a : α) : Keeps keeps fails (pure a : Handler ε σ α) := fun _ h => h

lemma keeps_modify {f : σ → σ} (hf : ∀ state, keeps state → keeps (f state)) :
    Keeps keeps fails (modify f : Handler ε σ PUnit) := hf

lemma Keeps.bind {m : Handler ε σ α} {f : α → Handler ε σ β} (hm : Keeps keeps fails m)
    (hf : ∀ a, Keeps keeps fails (f a)) : Keeps keeps fails (m >>= f) := by
  intro state hstate
  have hends := hm state hstate
  change Ends keeps fails (EStateM.bind m f state)
  unfold EStateM.bind
  cases hm : m state with
  | ok a next =>
    rw [hm] at hends
    exact hf a next hends
  | error e next =>
    rw [hm] at hends
    exact hends

lemma keeps_change {f : σ → σ} (hf : ∀ state, keeps state → keeps (f state)) (a : α) :
    Keeps keeps fails (modify f >>= fun _ => pure a : Handler ε σ α) :=
  (keeps_modify hf).bind fun _ => keeps_pure a

lemma keeps_get {f : σ → Handler ε σ α} (hf : ∀ state, keeps state → Keeps keeps fails (f state)) :
    Keeps keeps fails (get >>= f) := fun state h => hf state h state h

lemma keeps_liftM {c : Except ε α} {f : α → Handler ε σ β}
    (hok : ∀ a, c = .ok a → Keeps keeps fails (f a)) (herror : ∀ e, c = .error e → fails e) :
    Keeps keeps fails (liftM c >>= f) := by
  cases c with
  | ok a => exact hok a rfl
  | error e => exact fun _ _ => herror e rfl

lemma keeps_check {c : Except δ α} {stop : δ → ε} {f : α → Handler ε σ β}
    (hok : ∀ a, c = .ok a → Keeps keeps fails (f a)) (herror : ∀ e, fails (stop e)) :
    Keeps keeps fails (Handler.check stop c >>= f) := by
  cases c with
  | ok a => exact hok a rfl
  | error e => exact fun _ _ => herror e

lemma keeps_required {o : Option α} {e : ε} {f : α → Handler ε σ β}
    (hsome : ∀ a, o = some a → Keeps keeps fails (f a)) (herror : fails e) :
    Keeps keeps fails (Handler.required e o >>= f) := by
  cases o with
  | some a => exact hsome a rfl
  | none => exact fun _ _ => herror

lemma keeps_stopIf {condition : Bool} {e : ε} (herror : fails e) :
    Keeps keeps fails (Handler.stopIf condition e : Handler ε σ Unit) := by
  cases condition with
  | true => exact fun _ _ => herror
  | false => exact keeps_pure ()

lemma Keeps.adaptExcept {m : Handler δ σ α} (hm : Keeps keeps (fun _ => True) m) (stop : δ → ε)
    (hstop : ∀ e, fails (stop e)) : Keeps keeps fails (m.adaptExcept stop) := by
  intro state hstate
  have hends := hm state hstate
  unfold EStateM.adaptExcept
  cases hm : m state with
  | ok a next =>
    rw [hm] at hends
    exact hends
  | error e next => exact hstop e

lemma Keeps.within {held : τ → Prop} {ends : δ → Prop} {m : Handler δ τ α} (hm : Keeps held ends m)
    {wrap : τ → σ} {stop : δ → ε} (hwrap : ∀ t, held t → keeps (wrap t))
    (hstop : ∀ e, ends e → fails (stop e)) {start : τ} (hstart : held start) :
    Ends keeps fails (m.within wrap stop start) := by
  have hends := hm start hstart
  unfold Handler.within
  cases hm : m start with
  | ok a next =>
    rw [hm] at hends
    exact hwrap next hends
  | error e next =>
    rw [hm] at hends
    exact hstop e hends

/-- Nothing is to be shown of a handler if all states and errors that it can end with are of the kind. -/
lemma ends_within (m : Handler δ τ α) {wrap : τ → σ} {stop : δ → ε} (start : τ)
    (hwrap : ∀ t, keeps (wrap t)) (hstop : ∀ e, fails (stop e)) :
    Ends keeps fails (m.within wrap stop start) := by
  have hany := keeps_true m
  exact hany.within (fun t _ => hwrap t) (fun e _ => hstop e) trivial

end Microworlds.Proofs

/-!
# Handlers

A handler reads and changes a state, and ends with a value or with an error. What it has changed before
an error stays changed, for nothing takes it back. A check is a value of `Except`; it cannot change
anything.
-/

namespace Microworlds

/-- An action on a state that may end with an error. -/
abbrev Handler (ε σ α : Type) := EStateM ε σ α

instance checkLift {ε σ : Type} : MonadLift (Except ε) (EStateM ε σ) where
  monadLift
    | .ok a => pure a
    | .error e => throw e

namespace Handler

variable {ε δ σ τ α : Type}

/-- The value that is there, or an error. -/
def required (e : ε) : Option α → Handler ε σ α
  | some a => pure a
  | none => throw e

/-- Ends with an error if a condition holds. -/
def stopIf (condition : Bool) (e : ε) : Handler ε σ Unit :=
  if condition then throw e else pure ()

/-- A check with its error as one of another kind. -/
def check (stop : ε → δ) : Except ε α → Handler δ σ α
  | .ok a => pure a
  | .error e => throw (stop e)

def on (part : σ → τ) (put : σ → τ → σ) (handler : Handler ε τ α) : Handler ε σ α := fun state =>
  match handler (part state) with
  | .ok a changed => .ok a (put state changed)
  | .error e changed => .error e (put state changed)

/-- Acts on one kind of state among several, beginning with the given one. -/
def within (wrap : τ → σ) (stop : ε → δ) (start : τ) (handler : Handler ε τ α) :
    EStateM.Result δ σ α :=
  match handler start with
  | .ok a changed => .ok a (wrap changed)
  | .error e changed => .error (stop e) (wrap changed)

end Handler

end Microworlds

import Microworlds.Effect
import Microworlds.Proofs.Handler
import Mathlib.Data.List.Chain
import Mathlib.Data.List.Induction

/-!
# Histories

Commands are carried out on a state one after the other. A command that fails is passed over, and the
next one goes on from the state it left. `history` is the list of what happened, `reached` the state at
the end. What every success keeps, and every failure, holds at the end of each history.
-/

namespace Microworlds.Proofs

variable {ε κ σ : Type}

/-- A command that was tried: the state it found, what came of it, and the state it left. -/
structure Event (ε κ σ : Type) where
  before : σ
  command : κ
  outcome : Except ε Effect
  after : σ

/-- What happens when a command is tried on a state. -/
def happen (perform : κ → Handler ε σ Effect) (before : σ) (command : κ) : Event ε κ σ :=
  match perform command before with
  | .ok effect after => ⟨before, command, .ok effect, after⟩
  | .error e after => ⟨before, command, .error e, after⟩

def history (perform : κ → Handler ε σ Effect) : σ → List κ → List (Event ε κ σ)
  | _, [] => []
  | state, command :: more =>
    happen perform state command :: history perform (happen perform state command).after more

/-- The state after some commands. -/
def reached (perform : κ → Handler ε σ Effect) (start : σ) (commands : List κ) : σ :=
  commands.foldl (fun state command => (happen perform state command).after) start

/-- All states that are come to, the first one included. -/
def visited (perform : κ → Handler ε σ Effect) (start : σ) (commands : List κ) : List σ :=
  start :: (history perform start commands).map (·.after)

/-- The steps that an event shows. A failure shows none. -/
def Event.steps (event : Event ε κ σ) : List Step :=
  match event.outcome with
  | .ok effect => effect.steps
  | .error _ => []

/-- The commands that have succeeded. -/
def carriedOut (events : List (Event ε κ σ)) : List κ :=
  events.filterMap fun event =>
    match event.outcome with
    | .ok _ => some event.command
    | .error _ => none

/-- The commands that have succeeded, each with its effect. -/
def successes (events : List (Event ε κ σ)) : List (κ × Effect) :=
  events.filterMap fun event =>
    match event.outcome with
    | .ok effect => some (event.command, effect)
    | .error _ => none

/-- What came of which command. -/
def Event.result (event : Event ε κ σ) : κ × Except ε Effect :=
  (event.command, event.outcome)

variable {perform : κ → Handler ε σ Effect} {start : σ}

lemma carriedOut_success (events : List (Event ε κ σ)) (before after : σ) (command : κ)
    (effect : Effect) :
    carriedOut (events ++ [⟨before, command, .ok effect, after⟩]) = carriedOut events ++ [command] := by
  unfold carriedOut
  rw [List.filterMap_append]
  rfl

lemma carriedOut_failure (events : List (Event ε κ σ)) (before after : σ) (command : κ) (e : ε) :
    carriedOut (events ++ [⟨before, command, .error e, after⟩]) = carriedOut events := by
  unfold carriedOut
  rw [List.filterMap_append]
  exact List.append_nil _

lemma successes_success (events : List (Event ε κ σ)) (before after : σ) (command : κ)
    (effect : Effect) :
    successes (events ++ [⟨before, command, .ok effect, after⟩]) =
      successes events ++ [(command, effect)] := by
  unfold successes
  rw [List.filterMap_append]
  rfl

lemma successes_failure (events : List (Event ε κ σ)) (before after : σ) (command : κ) (e : ε) :
    successes (events ++ [⟨before, command, .error e, after⟩]) = successes events := by
  unfold successes
  rw [List.filterMap_append]
  exact List.append_nil _

lemma length_carriedOut_le (events : List (Event ε κ σ)) :
    (carriedOut events).length ≤ events.length :=
  List.length_filterMap_le _ events

lemma happen_cases {command : κ} (hatomic : Atomic (perform command)) (state : σ) :
    (∃ effect after, perform command state = .ok effect after ∧
      happen perform state command = ⟨state, command, .ok effect, after⟩) ∨
    ∃ e, happen perform state command = ⟨state, command, .error e, state⟩ := by
  unfold happen
  cases h : perform command state with
  | ok effect after => exact .inl ⟨effect, after, rfl, rfl⟩
  | error e after =>
    rw [hatomic state e after h]
    exact .inr ⟨e, rfl⟩

lemma reached_append (start : σ) (commands later : List κ) :
    reached perform start (commands ++ later) =
      reached perform (reached perform start commands) later :=
  List.foldl_append

lemma history_append (start : σ) (commands later : List κ) :
    history perform start (commands ++ later) =
      history perform start commands ++ history perform (reached perform start commands) later := by
  induction commands generalizing start with
  | nil => rfl
  | cons command more ih =>
    simp only [List.cons_append, history, ih]
    rfl

lemma length_history (start : σ) (commands : List κ) :
    (history perform start commands).length = commands.length := by
  induction commands generalizing start with
  | nil => rfl
  | cons command more ih => simp only [history, List.length_cons, ih]

lemma happen_command (state : σ) (command : κ) : (happen perform state command).command = command := by
  unfold happen
  split <;> rfl

lemma happen_of_ok {command : κ} {effect : Effect} {after : σ}
    (h : perform command start = .ok effect after) :
    happen perform start command = ⟨start, command, .ok effect, after⟩ := by
  unfold happen
  rw [h]

/-- Commands that succeed one after the other, with what each of them shows and the state they end in. -/
inductive Succeeds (perform : κ → Handler ε σ Effect) : σ → List κ → List Effect → σ → Prop where
  | done (state : σ) : Succeeds perform state [] [] state
  | next {state between last : σ} {command : κ} {more : List κ} {effect : Effect}
    {effects : List Effect} (hfirst : perform command state = .ok effect between)
    (hmore : Succeeds perform between more effects last) :
    Succeeds perform state (command :: more) (effect :: effects) last

lemma Succeeds.outcomes {commands : List κ} {effects : List Effect} {last : σ}
    (h : Succeeds perform start commands effects last) :
    (history perform start commands).map (·.outcome) = effects.map .ok := by
  induction h with
  | done state => rfl
  | next hfirst hmore ih => simp only [history, happen_of_ok hfirst, List.map_cons, ih]

lemma Succeeds.reached_eq {commands : List κ} {effects : List Effect} {last : σ}
    (h : Succeeds perform start commands effects last) : reached perform start commands = last := by
  induction h with
  | done state => rfl
  | next hfirst hmore ih => rw [reached, List.foldl_cons, happen_of_ok hfirst]; exact ih

lemma mem_history {event : Event ε κ σ} {commands : List κ}
    (h : event ∈ history perform start commands) :
    ∃ earlier later, commands = earlier ++ event.command :: later ∧
      event = happen perform (reached perform start earlier) event.command := by
  induction commands generalizing start with
  | nil => cases h
  | cons command more ih =>
    obtain hfirst | hmore := List.mem_cons.mp h
    · refine ⟨[], more, ?_, ?_⟩
      · rw [hfirst, happen_command]
        rfl
      · rw [hfirst, happen_command]
        rfl
    · obtain ⟨earlier, later, hcommands, hevent⟩ := ih hmore
      refine ⟨command :: earlier, later, ?_, hevent⟩
      rw [List.cons_append, ← hcommands]

lemma perform_of_ok {event : Event ε κ σ} {commands : List κ} {effect : Effect}
    (h : event ∈ history perform start commands) (hok : event.outcome = .ok effect) :
    perform event.command event.before = .ok effect event.after := by
  obtain ⟨earlier, later, -, hhappen⟩ := mem_history h
  unfold happen at hhappen
  split at hhappen
  · next found after hperform =>
    rw [hhappen] at hok ⊢
    cases hok
    exact hperform
  · rw [hhappen] at hok
    cases hok

lemma perform_of_error {event : Event ε κ σ} {commands : List κ} {e : ε}
    (h : event ∈ history perform start commands) (herror : event.outcome = .error e) :
    perform event.command event.before = .error e event.after := by
  obtain ⟨earlier, later, -, hhappen⟩ := mem_history h
  unfold happen at hhappen
  split at hhappen
  · rw [hhappen] at herror
    cases herror
  · next found after hperform =>
    rw [hhappen] at herror ⊢
    cases herror
    exact hperform

lemma visited_descends {measure : σ → Nat} {commands : List κ}
    (hevent : ∀ command ∈ commands, ∀ state,
      measure (happen perform state command).after ≤ measure state) (start : σ) :
    ((visited perform start commands).map measure).Pairwise (· ≥ ·) := by
  rw [← List.isChain_iff_pairwise]
  induction commands generalizing start with
  | nil => exact .singleton _
  | cons command more ih =>
    obtain ⟨hcommand, hmore⟩ := List.forall_mem_cons.mp hevent
    exact List.isChain_cons_cons.mpr ⟨hcommand start, ih hmore _⟩

/-- Commands can be left out of a history without a trace in what came of the others, if the others
come to the same on states that are the same in some respect, and those left out keep that respect. -/
lemma history_filter (same : σ → σ → Prop) (kept : κ → Bool)
    (hkept : ∀ command state other, kept command = true → same state other →
      (happen perform state command).outcome = (happen perform other command).outcome ∧
        same (happen perform state command).after (happen perform other command).after)
    (hleft : ∀ command state other, kept command = false → same state other →
      same (happen perform state command).after other)
    (commands : List κ) {other : σ} (hstart : same start other) :
    ((history perform start commands).filter fun event => kept event.command).map Event.result =
        (history perform other (commands.filter kept)).map Event.result ∧
      same (reached perform start commands) (reached perform other (commands.filter kept)) := by
  induction commands generalizing start other with
  | nil => exact ⟨rfl, hstart⟩
  | cons command more ih =>
    cases hcommand : kept command with
    | true =>
      have hfirst : kept (happen perform start command).command = true := by
        rw [happen_command, hcommand]
      obtain ⟨houtcome, hafter⟩ := hkept command start other hcommand hstart
      obtain ⟨hresults, hreached⟩ := ih hafter
      rw [List.filter_cons_of_pos hcommand]
      refine ⟨?_, hreached⟩
      rw [history, history, List.filter_cons, if_pos hfirst, List.map_cons, List.map_cons, hresults]
      simp only [Event.result, happen_command, houtcome]
    | false =>
      have hfirst : ¬ kept (happen perform start command).command = true := by
        rw [happen_command, hcommand]
        decide
      obtain ⟨hresults, hreached⟩ := ih (hleft command start other hcommand hstart)
      rw [List.filter_cons_of_neg (ne_true_of_eq_false hcommand)]
      refine ⟨?_, hreached⟩
      rw [history, List.filter_cons, if_neg hfirst, hresults]

/-- What holds of no event and the first state, and goes on to hold with every success and every
failure, holds of each history and of the state that it ends in. -/
lemma history_induction (hatomic : ∀ command, Atomic (perform command))
    {motive : List (Event ε κ σ) → σ → Prop} (hstart : motive [] start)
    (hsuccess : ∀ events state command effect after, motive events state →
      perform command state = .ok effect after →
        motive (events ++ [⟨state, command, .ok effect, after⟩]) after)
    (hfailure : ∀ events state command e, motive events state →
      motive (events ++ [⟨state, command, .error e, state⟩]) state)
    (commands : List κ) : motive (history perform start commands) (reached perform start commands) := by
  induction commands using List.reverseRecOn with
  | nil => exact hstart
  | append_singleton commands command ih =>
    rw [history_append, reached_append]
    change motive (_ ++ [happen perform (reached perform start commands) command])
      (happen perform (reached perform start commands) command).after
    obtain ⟨effect, after, hperform, hhappen⟩ | ⟨e, hhappen⟩ :=
      happen_cases (hatomic command) (reached perform start commands)
    · rw [hhappen]
      exact hsuccess _ _ command effect after ih hperform
    · rw [hhappen]
      exact hfailure _ _ command e ih

end Microworlds.Proofs

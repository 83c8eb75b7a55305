import Microworlds.Language
import Microworlds.LineResult
import Microworlds.Text.Lines

/-!
# Sessions

A session carries out programs in one scenario. Statements are taken one after the other; one that
fails is reported and passed over, and the next one goes on from the state it left.
-/

namespace Microworlds

def execute (rules : List (Rule Command)) (line : String) : Handler Stop State Effect := do
  let statement ← Handler.check Stop.notUnderstood (classify rules line)
  statement.command.perform

/-- What came of a run: a result for each statement, and the state after them. -/
abbrev Run := List LineResult × State

/-- Carries out a line and says what came of it. Nothing comes out if a count leaves its range. -/
def attempt (rules : List (Rule Command)) (state : State) (number : Nat) (line : String) :
    Option (LineResult × State) :=
  match execute rules line state with
  | .ok effect next => some (⟨number, line, .success effect⟩, next)
  | .error (.failed failure) next =>
    some (⟨number, line, .failure failure.kind failure.message⟩, next)
  | .error .overflow _ => none

/-- Carries out statements one after the other. -/
def runStatements (rules : List (Rule Command)) : State → List (Nat × String) → Option Run
  | state, [] => some ([], state)
  | state, (number, line) :: more => do
    let (result, next) ← attempt rules state number line
    let (results, last) ← runStatements rules next more
    return (result :: results, last)

/-- Carries out a program text on a state, by the rules of a scenario. -/
def interpret (scenario : Scenario) (state : State) (code : String) : Option Run :=
  runStatements (rulesOf scenario) state (Text.statements code)

structure Session where
  scenario : Scenario
  config : Config
  state : State

namespace Session

def start (scenario : Scenario) (config : Config) : Session :=
  ⟨scenario, config, .initial config scenario⟩

/-- A session that goes on from a state a host has kept. A state of another scenario is put aside. -/
def resume (scenario : Scenario) (state : Option State) (config : Config) : Session :=
  match state with
  | some state => if state.scenario = scenario then ⟨scenario, config, state⟩ else start scenario config
  | none => start scenario config

def run (session : Session) (code : String) : Option (List LineResult × Session) :=
  (interpret session.scenario session.state code).map fun (results, state) =>
    (results, { session with state })

def reset (session : Session) : Session :=
  start session.scenario session.config

end Session

end Microworlds

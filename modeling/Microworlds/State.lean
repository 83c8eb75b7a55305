import Microworlds.Scenario
import Microworlds.Config
import Microworlds.Programming.Codec
import Microworlds.Algorithm.Codec
import Microworlds.DataStructure.Codec
import Microworlds.Math.Codec
import Microworlds.Physics.Codec
import Microworlds.Game.Codec
import Microworlds.Hash.Codec
import Microworlds.Strategy.Codec
import Microworlds.AiChat.Codec
import Microworlds.Colony.Codec

/-!
# States and commands of all scenarios

A session holds the state of one scenario, and a command belongs to one scenario. `Command.perform`
carries out a command on a state of the same scenario and refuses any other.
-/

namespace Microworlds

inductive State where
  | programming (state : Programming.State)
  | algorithm (state : Algorithm.State)
  | dataStructure (state : DataStructure.State)
  | math (state : Math.State)
  | physics (state : Physics.State)
  | game (state : Game.State)
  | hash (state : Hash.State)
  | strategy (state : Strategy.State)
  | aiChat (state : AiChat.State)
  | colony (state : Colony.State)

inductive Command where
  | programming (command : Programming.Command)
  | algorithm (command : Algorithm.Command)
  | dataStructure (command : DataStructure.Command)
  | math (command : Math.Command)
  | physics (command : Physics.Command)
  | game (command : Game.Command)
  | hash (command : Hash.Command)
  | strategy (command : Strategy.Command)
  | aiChat (command : AiChat.Command)
  | colony (command : Colony.Command)

def Command.scenario : Command → Scenario
  | programming _ => .programming
  | algorithm _ => .algorithm
  | dataStructure _ => .dataStructure
  | math _ => .math
  | physics _ => .physics
  | game _ => .game
  | hash _ => .hash
  | strategy _ => .strategy
  | aiChat _ => .aiChat
  | colony _ => .colony

namespace State

def scenario : State → Scenario
  | programming _ => .programming
  | algorithm _ => .algorithm
  | dataStructure _ => .dataStructure
  | math _ => .math
  | physics _ => .physics
  | game _ => .game
  | hash _ => .hash
  | strategy _ => .strategy
  | aiChat _ => .aiChat
  | colony _ => .colony

/-- The state before the first statement. -/
def initial (config : Config) : Scenario → State
  | .programming => programming .initial
  | .algorithm => algorithm .initial
  | .dataStructure => dataStructure .initial
  | .math => math .initial
  | .physics => physics .initial
  | .game => game .initial
  | .hash => hash (.initial config.hashModulus)
  | .strategy => strategy .initial
  | .aiChat => aiChat (.initial config.aiSeed)
  | .colony => colony .initial

/-- Refuses a command of another scenario. -/
def mismatch (state : State) (command : Command) : Stop :=
  .refused (.invalid (command.scenario.name ++ " command cannot run against " ++
    state.scenario.name ++ " state"))

/-- The form of a state in JSON without the name of its scenario. -/
def body : State → Json
  | programming s => encode s
  | algorithm s => encode s
  | dataStructure s => encode s
  | math s => encode s
  | physics s => encode s
  | game s => encode s
  | hash s => encode s
  | strategy s => encode s
  | aiChat s => encode s
  | colony s => encode s

def ofBody? (value : Json) : Scenario → Option State
  | .programming => (decode? value).map programming
  | .algorithm => (decode? value).map algorithm
  | .dataStructure => (decode? value).map dataStructure
  | .math => (decode? value).map math
  | .physics => (decode? value).map physics
  | .game => (decode? value).map game
  | .hash => (decode? value).map hash
  | .strategy => (decode? value).map strategy
  | .aiChat => (decode? value).map aiChat
  | .colony => (decode? value).map colony

end State

/-- Carries out a command on the state of its scenario. -/
def Command.perform (command : Command) : Handler Stop State Effect := fun state =>
  match state, command with
  | .programming s, programming c => (Programming.perform c).within .programming Stop.refused s
  | .algorithm s, algorithm c => (Algorithm.perform c).within .algorithm Stop.refused s
  | .dataStructure s, dataStructure c => (DataStructure.perform c).within .dataStructure Stop.refused s
  | .math s, math c => (Math.perform c).within .math Stop.failed s
  | .physics s, physics c => (Physics.perform c).within .physics Stop.refused s
  | .game s, game c => (Game.perform c).within .game Stop.refused s
  | .hash s, hash c => (Hash.perform c).within .hash Stop.refused s
  | .strategy s, strategy c => (Strategy.perform c).within .strategy Stop.refused s
  | .aiChat s, aiChat c => (AiChat.perform c).within .aiChat id s
  | .colony s, colony c => (Colony.perform c).within .colony Stop.refused s
  | state, command => .error (state.mismatch command) state

instance : Coded State where
  encode state :=
    match state.body with
    | .obj members => .obj (("scenario", .str state.scenario.name) :: members)
    | other => other
  decode? value := do
    let (name, body) ← (← value.whole?).tagged? "scenario"
    State.ofBody? body (← Scenario.named? (← decode? name))

end Microworlds

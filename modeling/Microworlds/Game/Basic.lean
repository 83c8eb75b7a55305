import Microworlds.Effect
import Microworlds.Failure
import Microworlds.Handler
import Microworlds.Counter
import Microworlds.Statement.Vocabulary

/-!
# Game

A player who collects coins on a grid of 8 by 8 cells.
-/

namespace Microworlds.Game

/-- A cell of the grid. A host may hand in cells outside of it. -/
structure Position where
  x : Int64
  y : Int64
  deriving DecidableEq, Repr

structure State where
  player : Option Position
  coins : List Position
  score : UInt64
  deriving DecidableEq, Repr

/-- Before the first statement there is one coin and no player. -/
def State.initial : State := ⟨none, [⟨2, 1⟩], 0⟩

inductive Command where
  | createPlayer (x y : Int64)
  | move (direction : Direction)
  | spawnCoin (x y : Int64)
  deriving DecidableEq, Repr

/-- How many cells a row and a column have. -/
def gridSize : Int64 := 8

def coinValue : UInt64 := 10

def onGrid (x y : Int64) : Except Refusal Position :=
  if 0 ≤ x ∧ x < gridSize ∧ 0 ≤ y ∧ y < gridSize then .ok ⟨x, y⟩ else .error (.outside x y)

/-- The coordinate one step further, at most at the border of the grid. -/
def stepped (coordinate step : Int64) : Int64 :=
  let next := coordinate.toInt + step.toInt
  if next < 0 then 0 else if gridSize.toInt ≤ next then gridSize - 1 else Int64.ofInt next

/-- The next cell in a direction, or the same at the border. -/
def Position.step (cell : Position) (direction : Direction) : Position :=
  ⟨stepped cell.x direction.columns, stepped cell.y direction.rows⟩

/-- Takes up the first coin on a cell, if there is one, and adds this to the effect of a statement. -/
def collect (cell : Position) (effect : Effect) : Handler Refusal State Effect := do
  let state ← get
  if state.coins.contains cell then
    let score := Counter.add state.score coinValue
    set { state with coins := state.coins.erase cell, score }
    return ⟨effect.description ++ s!", collected coin (score {score})",
      effect.steps ++ [.collect cell.x cell.y score]⟩
  else return effect

def place (cell : Position) : Handler Refusal State Unit :=
  modify fun state => { state with player := some cell }

def perform : Command → Handler Refusal State Effect
  | .createPlayer x y => do
    let cell ← onGrid x y
    Handler.stopIf ((← get).player.isSome) (.duplicate "entity" "player")
    place cell
    collect cell (.plain s!"player created at ({x}, {y})")
  | .move direction => do
    let here ← Handler.required (.missing "entity" "player") (← get).player
    let cell := here.step direction
    place cell
    let way := direction.name
    let x := cell.x
    let y := cell.y
    let description :=
      if cell = here then s!"player blocked moving {way} at ({x}, {y})"
      else s!"player moved {way} to ({x}, {y})"
    collect cell ⟨description, [.move x y]⟩
  | .spawnCoin x y => do
    let cell ← onGrid x y
    Handler.stopIf ((← get).coins.contains cell) (.occupied x y)
    modify fun state => { state with coins := state.coins ++ [cell] }
    return .plain s!"coin spawned at ({x}, {y})"

end Microworlds.Game

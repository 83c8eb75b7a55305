import Microworlds.Effect
import Microworlds.Failure
import Microworlds.Stock

/-!
# Strategy

A game of buildings, units and resources on a board of 10 by 8 cells, played in turns. A cost is paid
in full or not at all.
-/

namespace Microworlds.Strategy

structure Building where
  kind : String
  x : Int64
  y : Int64
  deriving DecidableEq, Repr

structure Troop where
  kind : String
  x : Int64
  y : Int64
  health : UInt32
  attack : UInt32
  deriving DecidableEq, Repr

/-- A plan, perhaps with a goal. -/
structure Plan where
  name : String
  goal : Option String
  deriving DecidableEq, Repr

/-- The board with what stands on it, the resources and the plan. -/
structure State where
  resources : Stock
  buildings : List Building
  units : List Troop
  plan : Option Plan
  turn : UInt32
  deriving DecidableEq

/-- Before the first statement there are a few resources, and it is the first turn. -/
def State.initial : State :=
  ⟨.ofList [("gold", 100), ("wood", 50), ("food", 30)], [], [], none, 1⟩

inductive Command where
  | define (name : String)
  | setGoal (goal : String)
  | build (kind : String) (x y : Int64)
  | train (kind : String) (x y : Int64)
  | collect (resource : String) (amount : UInt64)
  | execute
  deriving DecidableEq, Repr

def boardWidth : Int64 := 10

def boardHeight : Int64 := 8

def resourceNames : List String := ["gold", "wood", "food"]

def income : Cost := [("gold", 20), ("wood", 10), ("food", 5)]

def buildingCost? : String → Option Cost
  | "farm" => some [("gold", 30), ("wood", 20)]
  | "barracks" => some [("gold", 50), ("wood", 40)]
  | "tower" => some [("gold", 40), ("wood", 30)]
  | _ => none

def unitCost? : String → Option Cost
  | "soldier" => some [("gold", 25), ("food", 10)]
  | "archer" => some [("gold", 30), ("food", 8)]
  | "knight" => some [("gold", 60), ("food", 15)]
  | _ => none

def unitAttack : String → UInt32
  | "soldier" => 20
  | "archer" => 25
  | "knight" => 35
  | _ => 10

def fullHealth : UInt32 := 100

/-- Refuses a cell outside the board. -/
def onBoard (x y : Int64) : Except Refusal Unit :=
  if 0 ≤ x ∧ x < boardWidth ∧ 0 ≤ y ∧ y < boardHeight then .ok () else .error (.outside x y)

def definedPlan (state : State) : Except Refusal Plan :=
  match state.plan with
  | some plan => .ok plan
  | none => .error (.invalid "no strategy defined")

/-- The balances of all resources, for the learner. -/
def showBalances (stock : Stock) : String :=
  ", ".intercalate (resourceNames.map fun name => name ++ " " ++ toString (Stock.amount stock name))

/-- Pays a cost from the resources. -/
def pay (cost : Cost) : Handler Refusal State Unit :=
  (Stock.spend cost).on State.resources fun state resources => { state with resources }

def build (kind : String) (x y : Int64) : Handler Refusal State Effect := do
  let cost ← Handler.required (.unknown "building type" kind) (buildingCost? kind)
  onBoard x y
  Handler.stopIf ((← get).buildings.any fun b => b.x == x && b.y == y) (.occupied x y)
  pay cost
  modify fun state => { state with buildings := state.buildings ++ [⟨kind, x, y⟩] }
  return .plain s!"built {kind} at ({x},{y})"

def train (kind : String) (x y : Int64) : Handler Refusal State Effect := do
  let cost ← Handler.required (.unknown "unit type" kind) (unitCost? kind)
  onBoard x y
  Handler.stopIf ((← get).units.any fun u => u.x == x && u.y == y) (.occupied x y)
  pay cost
  let troop : Troop := ⟨kind, x, y, fullHealth, unitAttack kind⟩
  modify fun state => { state with units := state.units ++ [troop] }
  return .plain s!"trained {kind} at ({x},{y})"

def collect (resource : String) (amount : UInt64) : Handler Refusal State Effect := do
  Handler.stopIf (!resourceNames.contains resource) (.unknown "resource" resource)
  modify fun state => { state with resources := Stock.add state.resources resource amount }
  let balance := Stock.amount (← get).resources resource
  return .plain s!"collected {amount} {resource} ({resource} {balance})"

def perform : Command → Handler Refusal State Effect
  | .define name => do
    modify fun state => { state with plan := some ⟨name, none⟩ }
    return .plain ("strategy defined: " ++ name)
  | .setGoal goal => do
    let plan ← definedPlan (← get)
    modify fun state => { state with plan := some { plan with goal := some goal } }
    return .plain ("goal set: " ++ goal)
  | .build kind x y => build kind x y
  | .train kind x y => train kind x y
  | .collect resource amount => collect resource amount
  | .execute => do
    let plan ← definedPlan (← get)
    modify fun state => { state with resources := Stock.addAll state.resources income }
    modify fun state => { state with turn := Counter.next state.turn }
    let state ← get
    let name := plan.name
    let turn := state.turn
    let balances := showBalances state.resources
    return .plain s!"executed strategy {name}: turn {turn}, {balances}"

end Microworlds.Strategy

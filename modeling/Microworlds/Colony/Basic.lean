import Microworlds.Effect
import Microworlds.Stock
import Microworlds.Statement.Vocabulary

/-!
# Colony

Colonists and structures on a map of 20 by 20 cells. Resources never fall below zero, and a structure
whose cost cannot be paid in full is not built.
-/

namespace Microworlds.Colony

structure Colonist where
  name : String
  x : Int64
  y : Int64
  hp : UInt32
  maxHp : UInt32
  downed : Bool
  deriving DecidableEq, Repr

structure Structure where
  kind : String
  x : Int64
  y : Int64
  hp : UInt32
  maxHp : UInt32
  deriving DecidableEq, Repr

inductive Weather where
  | sunny
  | rainy
  | stormy
  deriving DecidableEq, Repr

namespace Weather

def name : Weather → String
  | sunny => "sunny"
  | rainy => "rainy"
  | stormy => "stormy"

/-- The weather with exactly this name. -/
def named? : String → Option Weather
  | "sunny" => some sunny
  | "rainy" => some rainy
  | "stormy" => some stormy
  | _ => none

/-- The weather of an English or a Chinese word. White space around it does not count. -/
def ofWord? (word : String) : Option Weather :=
  match Text.trimmed word with
  | "晴天" => some sunny
  | "雨天" => some rainy
  | "暴风雨" => some stormy
  | english => named? english

end Weather

/-- The map with what stands on it, the resources and the surroundings. -/
structure State where
  resources : Stock
  colonists : List Colonist
  /-- The position of the colonist who moves and is healed. -/
  selected : Option Nat
  structures : List Structure
  autoMode : Bool
  paused : Bool
  weather : Weather
  /-- In degrees Celsius. -/
  temperature : Int64
  deriving DecidableEq

/-- Before the first statement there are two colonists, one of them downed, and no structures. -/
def State.initial : State where
  resources := .ofList [("wood", 100), ("stone", 50), ("food", 80), ("metal", 20)]
  colonists := [⟨"Ada", 10, 10, 10, 10, false⟩, ⟨"Bo", 12, 10, 0, 10, true⟩]
  selected := some 0
  structures := []
  autoMode := false
  paused := false
  weather := .sunny
  temperature := 20

inductive Command where
  | setResource (resource : String) (amount : UInt64)
  | adjustResource (resource : String) (sign : Sign) (amount : UInt64)
  | moveColonist (x y : Int64)
  | heal
  | revive
  | build (kind : String) (x y : Int64)
  | demolish (x y : Int64)
  | auto (on : Bool)
  | pause
  | resume
  | setWeather (weather : String)
  | setTemperature (degrees : Int64)
  | disaster (kind : String)
  deriving DecidableEq, Repr

def resourceNames : List String := ["wood", "stone", "food", "metal"]

/-- How many cells a row and a column of the map have. -/
def mapSize : Int64 := 20

/-- The damage an earthquake does to a structure. -/
def earthquakeDamage : UInt32 := 50

/-- The harm an earthquake does to a standing colonist. -/
def earthquakeInjury : UInt32 := 3

/-- What a kind of structure costs, and how much it can bear. -/
def structureKind? : String → Option (Cost × UInt32)
  | "wall" => some ([("stone", 5)], 100)
  | "house" => some ([("wood", 30), ("stone", 10)], 200)
  | "bed" => some ([("wood", 10)], 50)
  | _ => none

/-- What comes back of a cost: half of every amount above one, rounded up. -/
def refund (cost : Cost) : Cost :=
  (cost.filter fun (_, paid) => 1 < paid).map fun (resource, paid) => (resource, (paid + 1) / 2)

/-- Refuses a resource that no colony has. -/
def knownResource (name : String) : Except Refusal Unit :=
  if resourceNames.contains name then .ok () else .error (.unknown "resource" name)

/-- Refuses a cell outside the map. -/
def onMap (x y : Int64) : Except Refusal Unit :=
  if 0 ≤ x ∧ x < mapSize ∧ 0 ≤ y ∧ y < mapSize then .ok () else .error (.outside x y)

def selectedColonist (state : State) : Except Refusal (Nat × Colonist) :=
  match state.selected with
  | none => .error (.invalid "no colonist selected")
  | some index =>
    match state.colonists[index]? with
    | none => .error (.invalid "no colonist selected")
    | some colonist => .ok (index, colonist)

def standingColonist (state : State) : Except Refusal (Nat × Colonist) := do
  let (index, colonist) ← selectedColonist state
  if colonist.downed then throw (.invalid (colonist.name ++ " is downed"))
  return (index, colonist)

/-- Puts a colonist in the place of another one. -/
def withColonist (state : State) (index : Nat) (colonist : Colonist) : State :=
  { state with colonists := state.colonists.set index colonist }

/-- The health of a colonist who has been healed by a point. -/
def healed (colonist : Colonist) : UInt32 :=
  let next := Counter.next colonist.hp
  if next ≤ colonist.maxHp then next else colonist.maxHp

/-- Helps the first downed colonist up: the name, and all colonists. -/
def reviveFirst : List Colonist → Option (String × List Colonist)
  | [] => none
  | colonist :: more =>
    if colonist.downed then
      some (colonist.name, { colonist with downed := false, hp := 1 } :: more)
    else (reviveFirst more).map fun (name, colonists) => (name, colonist :: colonists)

def setResource (resource : String) (amount : UInt64) : Handler Refusal State Effect := do
  knownResource resource
  modify fun state => { state with resources := state.resources.insert resource amount }
  return .plain s!"{resource} = {amount}"

/-- Adds to a resource, or takes from it what is there. -/
def adjustResource (resource : String) (sign : Sign) (amount : UInt64) :
    Handler Refusal State Effect := do
  knownResource resource
  let held := Stock.amount (← get).resources resource
  let balance := match sign with
    | .plus => Counter.add held amount
    | .minus => Counter.sub held amount
  modify fun state => { state with resources := state.resources.insert resource balance }
  let symbol := sign.symbol
  return .plain s!"{resource} {symbol}= {amount} → {balance}"

def moveColonist (x y : Int64) : Handler Refusal State Effect := do
  onMap x y
  let (index, colonist) ← standingColonist (← get)
  modify fun state => withColonist state index { colonist with x, y }
  let name := colonist.name
  return .plain s!"{name} moved to ({x},{y})"

def heal : Handler Refusal State Effect := do
  let (index, colonist) ← standingColonist (← get)
  let hp := healed colonist
  modify fun state => withColonist state index { colonist with hp }
  let name := colonist.name
  let maxHp := colonist.maxHp
  return .plain s!"{name} healed to {hp}/{maxHp} hp"

def revive : Handler Refusal State Effect := do
  let (name, colonists) ← Handler.required (.invalid "no downed colonist")
    (reviveFirst (← get).colonists)
  modify fun state => { state with colonists }
  return .plain (name ++ " revived with 1 hp")

/-- Pays a cost from the resources. -/
def pay (cost : Cost) : Handler Refusal State Unit :=
  (Stock.spend cost).on State.resources fun state resources => { state with resources }

def build (kind : String) (x y : Int64) : Handler Refusal State Effect := do
  let (cost, hp) ← Handler.required (.unknown "structure type" kind) (structureKind? kind)
  onMap x y
  Handler.stopIf ((← get).structures.any fun s => s.x == x && s.y == y) (.occupied x y)
  pay cost
  modify fun state => { state with structures := state.structures ++ [⟨kind, x, y, hp, hp⟩] }
  return .plain s!"built {kind} at ({x},{y})"

/-- The first structure on a cell, and the other structures. -/
def takeDown (x y : Int64) : List Structure → Option (Structure × List Structure)
  | [] => none
  | s :: more =>
    if s.x == x && s.y == y then some (s, more)
    else (takeDown x y more).map fun (found, others) => (found, s :: others)

/-- Takes down a structure and gives back a part of its cost. -/
def demolish (x y : Int64) : Handler Refusal State Effect := do
  let (found, structures) ← Handler.required (.missing "structure" s!"({x},{y})")
    (takeDown x y (← get).structures)
  modify fun state => { state with structures }
  let back := match structureKind? found.kind with
    | some (cost, _) => refund cost
    | none => []
  modify fun state => { state with resources := Stock.addAll state.resources back }
  let listed := ", ".intercalate (back.map fun (resource, amount) => s!"{resource} {amount}")
  let kind := found.kind
  let tail := if back.isEmpty then "" else ", refunded " ++ listed
  return .plain s!"demolished {kind} at ({x},{y}){tail}"

/-- Half of the food is lost. -/
def flood : Handler Refusal State Effect := do
  let food := Stock.amount (← get).resources "food" / 2
  modify fun state => { state with resources := state.resources.insert "food" food }
  return .plain s!"flood struck: food {food}"

/-- A structure after an earthquake. -/
def Structure.shaken (s : Structure) : Structure :=
  { s with hp := Counter.reduce s.hp earthquakeDamage }

/-- A colonist after an earthquake. Who is downed already is not harmed. -/
def Colonist.shaken (c : Colonist) : Colonist :=
  if c.downed then c
  else
    let hp := Counter.reduce c.hp earthquakeInjury
    { c with hp, downed := hp == 0 }

/-- Every structure is damaged and every standing colonist is hurt. -/
def earthquake : Handler Refusal State Effect := do
  let before := (← get).structures.length
  modify fun state =>
    { state with structures := (state.structures.map Structure.shaken).filter fun s => 0 < s.hp }
  let destroyed := before - (← get).structures.length
  let standing := (← get).colonists.countP fun c => !c.downed
  modify fun state => { state with colonists := state.colonists.map Colonist.shaken }
  let downed := standing - (← get).colonists.countP fun c => !c.downed
  return .plain (s!"earthquake struck: {destroyed} of {before} structures destroyed, " ++
    s!"{downed} colonists downed")

def perform : Command → Handler Refusal State Effect
  | .setResource resource amount => setResource resource amount
  | .adjustResource resource sign amount => adjustResource resource sign amount
  | .moveColonist x y => moveColonist x y
  | .heal => heal
  | .revive => revive
  | .build kind x y => build kind x y
  | .demolish x y => demolish x y
  | .auto on => do
    modify fun state => { state with autoMode := on }
    return .plain ("auto mode " ++ if on then "on" else "off")
  | .pause => do
    modify fun state => { state with paused := true }
    return .plain "colony paused"
  | .resume => do
    modify fun state => { state with paused := false }
    return .plain "colony resumed"
  | .setWeather word => do
    let weather ← Handler.required (.unknown "weather" word) (Weather.ofWord? word)
    modify fun state => { state with weather }
    return .plain ("weather changed to " ++ weather.name)
  | .setTemperature degrees => do
    modify fun state => { state with temperature := degrees }
    return .plain s!"temperature set to {degrees}°C"
  | .disaster kind =>
    match kind with
    | "flood" | "洪水" => flood
    | "earthquake" | "地震" => earthquake
    | _ => throw (.unknown "disaster" kind)

end Microworlds.Colony

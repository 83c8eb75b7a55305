import Microworlds.Effect
import Microworlds.Failure
import Microworlds.Handler
import Microworlds.Counter

/-!
# Physics

Round bodies in a box of 400 by 300. They fall, and bounce off the walls, the ceiling and the floor.
`y` grows downward, and time goes on in frames.
-/

namespace Microworlds.Physics

structure Body where
  name : String
  x : Float
  y : Float
  vx : Float
  vy : Float
  mass : Float
  radius : Float

structure State where
  gravity : Float
  bodies : List Body
  running : Bool
  frame : UInt64

/-- Before the first statement the box is empty and nothing moves. -/
def State.initial : State := ⟨9.8, [], false, 0⟩

inductive Command where
  | setGravity (g : Float)
  | create (name : String) (x y mass : Float)
  | applyForce (magnitude : Float) (target : String)
  | start
  | stop
  | step (frames : UInt32)

def width : Float := 400

def height : Float := 300

/-- The value within two bounds that is nearest to a number. -/
def clamp (x low high : Float) : Float :=
  if x < low then low else if high < x then high else x

/-- The radius that a body is moved with: at least zero and at most half of the height. -/
def movingRadius (radius : Float) : Float :=
  if radius < height / 2 then (if 0 < radius then radius else 0) else height / 2

def atWalls (r : Float) (body : Body) : Body :=
  if body.x - r < 0 || width < body.x + r then
    { body with vx := body.vx * -0.8, x := clamp body.x r (width - r) }
  else body

def atCeiling (r : Float) (body : Body) : Body :=
  if body.y - r < 0 then { body with vy := body.vy * -0.8, y := r } else body

/-- Turns a body round at the floor, where it also loses speed. -/
def atFloor (r : Float) (body : Body) : Body :=
  if height < body.y + r then
    { body with vy := body.vy * -0.7, y := height - r, vx := body.vx * 0.9 }
  else body

def Body.advance (gravity : Float) (body : Body) : Body :=
  let vy := body.vy + gravity * 0.02
  let moved := { body with vy, x := body.x + body.vx, y := body.y + vy }
  let r := movingRadius body.radius
  atFloor r (atCeiling r (atWalls r moved))

def State.advance (state : State) : State :=
  { state with
    bodies := state.bodies.map (Body.advance state.gravity)
    frame := Counter.add state.frame 1 }

def State.advanceBy : Nat → State → State
  | 0, state => state
  | frames + 1, state => advanceBy frames state.advance

/-- Refuses a body that no statement can have made. -/
def checkBody (body : Body) : Except Refusal Unit :=
  let finite := [body.x, body.y, body.vx, body.vy, body.mass].all Float.isFinite
  if finite && 0 < body.radius && body.radius ≤ height / 2 then .ok ()
  else .error (.invalid ("body " ++ body.name ++ " is outside the simulation limits"))

/-- Refuses bodies if one of them is refused. -/
def checkBodies (bodies : List Body) : Except Refusal Unit :=
  bodies.forM checkBody

def Body.show (body : Body) : String :=
  body.name ++ " at (" ++ Decimal.oneDecimal body.x ++ ", " ++ Decimal.oneDecimal body.y ++ ")"

def create (name : String) (x y mass : Float) : Handler Refusal State Effect := do
  Handler.stopIf (!(0 ≤ x && x ≤ width && 0 ≤ y && y ≤ height)) (.invalidPosition x y)
  Handler.stopIf (mass ≤ 0) (.invalid ("mass must be positive: " ++ Decimal.display mass))
  Handler.stopIf ((← get).bodies.any (·.name == name)) (.duplicate "entity" name)
  let body : Body := ⟨name, x, y, 0, 0, mass, clamp (mass * 8) 8 20⟩
  modify fun state => { state with bodies := state.bodies ++ [body] }
  return .plain ("created " ++ name ++ " at (" ++ Decimal.display x ++ ", " ++ Decimal.display y ++
    ") mass " ++ Decimal.display mass)

/-- Pushes the first body of a name to the side. What comes out is its new speed and all bodies. -/
def push (impulse : Float → Float) (name : String) : List Body → Option (Float × List Body)
  | [] => none
  | body :: more =>
    if body.name == name then
      let vx := body.vx + impulse body.mass
      some (vx, { body with vx } :: more)
    else (push impulse name more).map fun (vx, bodies) => (vx, body :: bodies)

/-- Lets the simulation go on for some frames, unless there is a body that it cannot move. -/
def step (frames : UInt32) : Handler Refusal State Effect := do
  Handler.stopIf (!(← get).running) (.invalid "simulation not running")
  checkBodies (← get).bodies
  modify (State.advanceBy frames.toNat)
  let bodies := (← get).bodies
  let places := ", ".intercalate (bodies.map Body.show)
  let tail := if bodies.isEmpty then "" else ": " ++ places
  return .plain s!"advanced {frames} frames{tail}"

def perform : Command → Handler Refusal State Effect
  | .setGravity g => do
    Handler.stopIf (g < 0) (.invalid ("gravity must not be negative: " ++ Decimal.display g))
    modify fun state => { state with gravity := g }
    return .plain ("gravity set to " ++ Decimal.display g ++ " m/s²")
  | .create name x y mass => create name x y mass
  | .applyForce magnitude target => do
    let (vx, bodies) ← Handler.required (.missing "entity" target)
      (push (fun mass => magnitude / mass * 0.5) target (← get).bodies)
    modify fun state => { state with bodies }
    return .plain ("applied force " ++ Decimal.display magnitude ++ " N to " ++ target ++ " (vx = " ++
      Decimal.display vx ++ ")")
  | .start => do
    Handler.stopIf ((← get).running) (.invalid "simulation already running")
    modify fun state => { state with running := true }
    let count := (← get).bodies.length
    return .plain s!"simulation started with {count} bodies"
  | .stop => do
    Handler.stopIf (!(← get).running) (.invalid "simulation not running")
    modify fun state => { state with running := false }
    let frame := (← get).frame
    return .plain s!"simulation stopped at frame {frame}"
  | .step frames => step frames

end Microworlds.Physics

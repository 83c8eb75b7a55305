import Microworlds.Effect
import Microworlds.Failure
import Microworlds.Handler
import Microworlds.Formula.Parser

/-!
# Math

Plots of formulas over a range, shapes, labelled points and a calculator.
-/

namespace Microworlds.Math

/-- The range a formula is plotted over. A host may hand in any two bounds. -/
structure Range where
  min : Int64
  max : Int64
  deriving DecidableEq, Repr

structure Plot where
  expression : String
  points : List (Float × Float)

inductive Shape where
  | circle (x y radius : Float)
  | rectangle (x y width height : Float)

structure LabeledPoint where
  x : Float
  y : Float
  label : Option String

/-- The drawing, and the last result of the calculator. -/
structure State where
  range : Range
  plots : List Plot
  shapes : List Shape
  points : List LabeledPoint
  lastResult : Option Float

/-- Before the first statement the range is -10 to 10 and nothing is drawn. -/
def State.initial : State := ⟨⟨-10, 10⟩, [], [], [], none⟩

/-- A statement about the drawing, or a calculation. -/
inductive Command where
  | setRange (min max : Int64)
  | plot (expression : String)
  | circle (x y radius : Float)
  | rectangle (x y width height : Float)
  | point (x y : Float) (label : Option String)
  | calculate (expression : String)

def maxSpan : Int := 1000

/-- The distance between two samples of a plot. -/
def sampleStep : Float := 0.1

/-- How many samples there are to a unit. -/
def samplesPerUnit : Nat := 10

/-- The width of a range, if it can be plotted. -/
def span (range : Range) : Except Refusal Nat :=
  let min := range.min
  let max := range.max
  if max ≤ min then .error (.invalid s!"range start must be below its end: {min} to {max}")
  else
    let width := max.toInt - min.toInt
    if width ≤ maxSpan then .ok width.toNat
    else .error (.invalid s!"range too wide: {min} to {max} (at most {maxSpan} units)")

def samplePlace (range : Range) (k : Nat) : Float :=
  Decimal.ofInt64 range.min + Float.ofNat k * sampleStep

/-- The points of a formula over a range of the given width. Places where it has no finite value are
left out. -/
def sample (formula : Formula) (range : Range) (width : Nat) : List (Float × Float) :=
  (List.range (samplesPerUnit * width + 1)).filterMap fun k =>
    let x := samplePlace range k
    match formula.eval (some x) with
    | .ok y => some (x, y)
    | .error _ => none

/-- Refuses a measure that is not positive. -/
def positive (what : String) (x : Float) : Except Refusal Unit :=
  if 0 < x then .ok ()
  else .error (.invalid (what ++ " must be positive: " ++ Decimal.display x))

def showPlace (x y : Float) : String :=
  "(" ++ Decimal.display x ++ ", " ++ Decimal.display y ++ ")"

def setRange (min max : Int64) : Handler Refusal State Effect := do
  let range : Range := ⟨min, max⟩
  let _ ← span range
  modify fun state => { state with range }
  return .plain s!"range set to [{min}, {max}]"

/-- Draws the plot of a formula over the range of the state. -/
def plot (expression : String) : Handler Failure State Effect := do
  let formula ← Handler.check .evaluation (Formula.parse expression)
  let range := (← get).range
  let width ← Handler.check .precondition (span range)
  let points := sample formula range width
  let min := range.min
  let max := range.max
  Handler.stopIf points.isEmpty
    (.precondition (.invalid s!"y = {expression} has no finite values in [{min}, {max}]"))
  modify fun state => { state with plots := state.plots ++ [⟨expression, points⟩] }
  let count := points.length
  return .plain s!"plotted y = {expression} over [{min}, {max}] ({count} points)"

def draw (shape : Shape) : Handler Refusal State Unit :=
  modify fun state => { state with shapes := state.shapes ++ [shape] }

def circle (x y radius : Float) : Handler Refusal State Effect := do
  positive "radius" radius
  draw (.circle x y radius)
  return .plain ("circle at " ++ showPlace x y ++ " radius " ++ Decimal.display radius)

def rectangle (x y width height : Float) : Handler Refusal State Effect := do
  positive "width" width
  positive "height" height
  draw (.rectangle x y width height)
  return .plain ("rectangle at " ++ showPlace x y ++ " size " ++ Decimal.display width ++ "x" ++
    Decimal.display height)

/-- Marks a point, with a label or without one. -/
def point (x y : Float) (label : Option String) : Handler Failure State Effect := do
  modify fun state => { state with points := state.points ++ [⟨x, y, label⟩] }
  let what := match label with
    | some label => "point " ++ label
    | none => "point"
  return .plain (what ++ " at " ++ showPlace x y)

/-- Works out a formula without variable. -/
def calculate (expression : String) : Handler Formula.Error State Effect := do
  let formula ← Formula.parse expression
  let result ← formula.eval none
  modify fun state => { state with lastResult := some result }
  return .plain (expression ++ " = " ++ Decimal.display result)

def perform : Command → Handler Failure State Effect
  | .setRange min max => (setRange min max).adaptExcept .precondition
  | .plot expression => plot expression
  | .circle x y radius => (circle x y radius).adaptExcept .precondition
  | .rectangle x y width height => (rectangle x y width height).adaptExcept .precondition
  | .point x y label => point x y label
  | .calculate expression => (calculate expression).adaptExcept .evaluation

end Microworlds.Math

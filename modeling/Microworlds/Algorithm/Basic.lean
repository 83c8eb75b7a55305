import Microworlds.Algorithm.Sort
import Microworlds.Failure
import Microworlds.Handler
import Microworlds.Statement.Vocabulary

/-!
# Algorithms

Named arrays that can be sorted, searched and printed. A sort works on a copy; the array changes when
the copy is sorted.
-/

namespace Microworlds

/-- A list of numbers as it is printed. -/
def showList (values : List Int64) : String :=
  "[" ++ ", ".intercalate (values.map toString) ++ "]"

namespace Algorithm

structure State where
  arrays : Table (List Int64)
  output : List String
  deriving DecidableEq

/-- Before the first statement there are no arrays. -/
def State.initial : State := ⟨∅, []⟩

inductive Command where
  | declare (name : String) (values : List Int64)
  | sort (name : String) (method : SortMethod)
  | search (name : String) (target : Int64)
  | print (text name : String)
  deriving DecidableEq, Repr

/-- The longest array that can be declared or sorted. -/
def maxLength : Nat := 100

def array (state : State) (name : String) : Except Refusal (List Int64) :=
  match state.arrays.find? name with
  | some values => .ok values
  | none => .error (.missing "array" name)

/-- Refuses an array that is too long. -/
def withinLimit (values : List Int64) : Except Refusal Unit :=
  let length := values.length
  if length ≤ maxLength then .ok ()
  else .error (.invalid s!"array too long: {length} elements (at most {maxLength})")

def sorted (method : SortMethod) (values : List Int64) : List Int64 × List Step :=
  match method with
  | .bubble => bubbleSort values
  | .selection => selectionSort values

def comparisons (steps : List Step) : Nat :=
  steps.countP fun
    | .compare .. => true
    | _ => false

def swaps (steps : List Step) : Nat :=
  steps.countP fun
    | .swap .. => true
    | _ => false

def perform : Command → Handler Refusal State Effect
  | .declare name values => do
    withinLimit values
    modify fun state => { state with arrays := state.arrays.insert name values }
    let text := showList values
    return .plain s!"array {name} = {text}"
  | .sort name method => do
    let values ← array (← get) name
    withinLimit values
    let (result, steps) := sorted method values
    modify fun state => { state with arrays := state.arrays.insert name result }
    let text := showList result
    let way := method.name
    let compared := comparisons steps
    let swapped := swaps steps
    return ⟨s!"sorted {name}: {text} ({way} sort, {compared} comparisons, {swapped} swaps)", steps⟩
  | .search name target => do
    let values ← array (← get) name
    let (found, steps) := linearSearch values target
    let description := match found with
      | some index => s!"found {target} in {name} at index {index}"
      | none => s!"{target} not found in {name}"
    return ⟨description, steps⟩
  | .print text name => do
    let values ← array (← get) name
    let line := text ++ showList values
    modify fun state => { state with output := state.output ++ [line] }
    return .plain ("output: " ++ line)

end Algorithm

end Microworlds

import Microworlds.Json.Coded

/-!
# Effects

What a statement did: a description for the learner, and the steps that can be shown one by one.
-/

namespace Microworlds

/-- A step of an animation. Positions count from 0. -/
inductive Step where
  /-- Two positions are compared. -/
  | compare (left right : Nat)
  /-- The values of two positions change places. -/
  | swap (left right : Nat)
  /-- A position has its final value. -/
  | settle (index : Nat)
  /-- A search looks at a position. -/
  | inspect (index : Nat)
  | found (index : Nat)
  /-- A character is added to a running sum. -/
  | accumulate (character : Char) (code : UInt32) (runningSum : UInt64)
  /-- A value of a heap changes places with the one above it. -/
  | heapSwap (child parent : Nat)
  /-- An insertion passes a node of a tree. -/
  | visit (value : Int64)
  | move (x y : Int64)
  | collect (x y : Int64) (score : UInt64)
  deriving DecidableEq, Repr

namespace Step

/-- The word that tells a kind of step apart. -/
def kind : Step → String
  | compare .. => "compare"
  | swap .. => "swap"
  | settle .. => "settle"
  | inspect .. => "inspect"
  | found .. => "found"
  | accumulate .. => "accumulate"
  | heapSwap .. => "heap_swap"
  | visit .. => "visit"
  | move .. => "move"
  | collect .. => "collect"

def kinds : List String :=
  ["compare", "swap", "settle", "inspect", "found", "accumulate", "heap_swap", "visit", "move",
    "collect"]

def fields : Step → List (String × Json)
  | compare left right | swap left right => [("left", encode left), ("right", encode right)]
  | settle index | inspect index | found index => [("index", encode index)]
  | accumulate character code runningSum =>
    [("character", encode character), ("code", encode code), ("running_sum", encode runningSum)]
  | heapSwap child parent => [("child", encode child), ("parent", encode parent)]
  | visit value => [("value", encode value)]
  | move x y => [("x", encode x), ("y", encode y)]
  | collect x y score => [("x", encode x), ("y", encode y), ("score", encode score)]

/-- The step of the given kind with the fields of a record. -/
def ofFields? (kind : String) (body : Json) : Option Step :=
  match kind with
  | "compare" => do
    let [left, right] ← body.fields? ["left", "right"] | none
    return .compare (← field? left) (← field? right)
  | "swap" => do
    let [left, right] ← body.fields? ["left", "right"] | none
    return .swap (← field? left) (← field? right)
  | "settle" => do
    let [index] ← body.fields? ["index"] | none
    return .settle (← field? index)
  | "inspect" => do
    let [index] ← body.fields? ["index"] | none
    return .inspect (← field? index)
  | "found" => do
    let [index] ← body.fields? ["index"] | none
    return .found (← field? index)
  | "accumulate" => do
    let [character, code, runningSum] ← body.fields? ["character", "code", "running_sum"] | none
    return .accumulate (← field? character) (← field? code) (← field? runningSum)
  | "heap_swap" => do
    let [child, parent] ← body.fields? ["child", "parent"] | none
    return .heapSwap (← field? child) (← field? parent)
  | "visit" => do
    let [value] ← body.fields? ["value"] | none
    return .visit (← field? value)
  | "move" => do
    let [x, y] ← body.fields? ["x", "y"] | none
    return .move (← field? x) (← field? y)
  | "collect" => do
    let [x, y, score] ← body.fields? ["x", "y", "score"] | none
    return .collect (← field? x) (← field? y) (← field? score)
  | _ => none

end Step

instance : Coded Step where
  encode step := .obj (("kind", .str step.kind) :: step.fields)
  decode? value := do
    let (kind, body) ← value.tagged? "kind"
    Step.ofFields? (← kind.choice? Step.kinds) body

structure Effect where
  description : String
  steps : List Step
  deriving DecidableEq, Repr

namespace Effect

/-- An effect without steps to show. -/
def plain (description : String) : Effect := ⟨description, []⟩

end Effect

instance : Coded Effect where
  encode effect :=
    .obj (("description", encode effect.description) ::
      if effect.steps.isEmpty then [] else [("steps", encode effect.steps)])
  decode? value := do
    let [description, steps] ← value.openFields? 1 ["description", "steps"] | none
    let shown ← match steps with
      | some steps => decode? steps
      | none => some []
    return ⟨← field? description, shown⟩

end Microworlds

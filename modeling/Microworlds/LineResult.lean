import Microworlds.Effect
import Microworlds.Failure

/-!
# Results of lines

What came of each statement of a program, as it is shown to the learner and handed to a host.
-/

namespace Microworlds

inductive Outcome where
  | success (effect : Effect)
  | failure (kind : FailureKind) (reason : String)
  deriving DecidableEq, Repr

structure LineResult where
  /-- Lines are counted from 1. -/
  lineNumber : Nat
  sourceLine : String
  outcome : Outcome
  deriving DecidableEq, Repr

namespace LineResult

def isSuccess (result : LineResult) : Bool :=
  match result.outcome with
  | .success _ => true
  | .failure .. => false

def description? (result : LineResult) : Option String :=
  match result.outcome with
  | .success effect => some effect.description
  | .failure .. => none

def reason? (result : LineResult) : Option String :=
  match result.outcome with
  | .success _ => none
  | .failure _ reason => some reason

/-- The steps of a line; there are none if it failed. -/
def steps (result : LineResult) : List Step :=
  match result.outcome with
  | .success effect => effect.steps
  | .failure .. => []

def render (result : LineResult) : String :=
  match result.outcome with
  | .success effect => "✓ " ++ effect.description
  | .failure _ reason => "✗ line " ++ toString result.lineNumber ++ ": " ++ reason

def renderAll (results : List LineResult) : String :=
  "\n".intercalate (results.map render)

end LineResult

def FailureKind.name : FailureKind → String
  | classification => "classification"
  | precondition => "precondition"
  | evaluation => "evaluation"

instance : Coded FailureKind where
  encode kind := .str kind.name
  decode? value :=
    match value.innerWord? with
    | some "classification" => some .classification
    | some "precondition" => some .precondition
    | some "evaluation" => some .evaluation
    | _ => none

/-- The members of an outcome, which stand among those of its line. -/
def Outcome.members : Outcome → List (String × Json)
  | success effect => [("status", .str "success"), ("effect", encode effect)]
  | failure kind reason =>
    [("status", .str "failure"), ("kind", encode kind), ("reason", encode reason)]

/-- Reads an outcome from the members of its line, none of which may be flawed. -/
def Outcome.ofJson? (value : Json) : Option Outcome := do
  let (status, body) ← (← value.whole?).tagged? "status"
  match ← status.choice? ["success", "failure"] with
  | "success" =>
    let [effect] ← body.fields? ["effect"] | none
    return .success (← field? effect)
  | "failure" =>
    let [kind, reason] ← body.fields? ["kind", "reason"] | none
    return .failure (← field? kind) (← field? reason)
  | _ => none

instance : Coded LineResult where
  encode result :=
    .obj (("line_number", encode result.lineNumber) ::
      ("source_line", encode result.sourceLine) :: result.outcome.members)
  decode?
    | .obj members => do
      let [number, source] ← (Json.obj members).fields? ["line_number", "source_line"] | none
      return ⟨← field? number, ← field? source, ← Outcome.ofJson? (.obj members)⟩
    | _ => none

end Microworlds

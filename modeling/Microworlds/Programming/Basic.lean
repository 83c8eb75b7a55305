import Microworlds.Effect
import Microworlds.Failure
import Microworlds.Handler
import Microworlds.Statement.Vocabulary

/-!
# Programming

Variables, output and conditions. A variable holds a whole number or a text, and arithmetic stays
within 64 bits.
-/

namespace Microworlds.Programming

inductive Value where
  | int (n : Int64)
  | text (s : String)
  deriving DecidableEq, Repr

def Value.show : Value → String
  | int n => toString n
  | text s => s

structure State where
  bindings : Table Value
  output : List String
  lastCondition : Option Bool
  deriving DecidableEq

/-- Before the first statement nothing is set. -/
def State.initial : State := ⟨∅, [], none⟩

inductive Command where
  | print (text : String)
  | printConcat (text var : String)
  | printVar (var : String)
  | assignInt (name : String) (value : Int64)
  | assignText (name value : String)
  | augment (name : String) (sign : Sign) (amount : Int64)
  | condition (name : String) (comparison : Comparison) (bound : Int64)
  deriving DecidableEq, Repr

def emit (line : String) : Handler Refusal State Effect := do
  modify fun state => { state with output := state.output ++ [line] }
  return .plain ("output: " ++ line)

def lookup (state : State) (name : String) : Except Refusal Value :=
  match state.bindings.find? name with
  | some value => .ok value
  | none => .error (.missing "variable" name)

/-- The value of a variable that has to be a number. -/
def integer (state : State) (name : String) : Except Refusal Int64 := do
  match ← lookup state name with
  | .int n => return n
  | .text _ => throw (.invalid s!"variable {name} is not an integer")

/-- The exact sum or difference of two numbers, if it fits. -/
def augmented? (sign : Sign) (current amount : Int64) : Option Int64 :=
  match sign with
  | .plus => Word.int64? (current.toInt + amount.toInt)
  | .minus => Word.int64? (current.toInt - amount.toInt)

/-- Binds a variable, in place of what it was bound to. -/
def assign (name : String) (value : Value) : Handler Refusal State Unit :=
  modify fun state => { state with bindings := state.bindings.insert name value }

def perform : Command → Handler Refusal State Effect
  | .print text => emit text
  | .printConcat text var => do
    let value ← lookup (← get) var
    emit (text ++ value.show)
  | .printVar var => do
    let value ← lookup (← get) var
    emit value.show
  | .assignInt name value => do
    assign name (.int value)
    return .plain s!"{name} = {value}"
  | .assignText name value => do
    assign name (.text value)
    return .plain (name ++ " = \"" ++ value ++ "\"")
  | .augment name sign amount => do
    let current ← integer (← get) name
    let next ← Handler.required (.invalid ("integer overflow updating " ++ name))
      (augmented? sign current amount)
    assign name (.int next)
    let symbol := sign.symbol
    return .plain s!"{name} {symbol}= {amount} → {next}"
  | .condition name comparison bound => do
    let current ← integer (← get) name
    let holds := comparison.holds current bound
    modify fun state => { state with lastCondition := some holds }
    let symbol := comparison.symbol
    return .plain s!"condition {name} {symbol} {bound} is {holds}"

end Microworlds.Programming

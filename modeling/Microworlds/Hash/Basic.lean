import Microworlds.Effect
import Microworlds.Failure
import Microworlds.Handler
import Microworlds.Counter

/-!
# Hashing

A hash function that adds up the code points of a text and takes the remainder, written down one line
at a time. Every line checks that the lines it depends on have been carried out.
-/

namespace Microworlds.Hash

/-- How far the function has been written down, and what it has worked out. -/
structure State where
  /-- The parameter of the function, once it is defined. -/
  param : Option String
  /-- The text that is hashed. -/
  input : String
  loopVar : Option String
  sum : Option UInt64
  /-- The modulus of a function that is called by its name. -/
  modulus : UInt32
  result : Option UInt64
  deriving DecidableEq, Repr

/-- Before the first statement only the text is there. -/
def State.initial (modulus : UInt32) : State := ⟨none, "apple", none, none, modulus, none⟩

/-- A line of the function, or a call of it. -/
inductive Command where
  | define (param : String)
  | setInput (name value : String)
  | initSum
  | loop (var source : String)
  | accumulate (var : String)
  | return (modulus : Int64)
  | hashOf (text : String)
  deriving DecidableEq, Repr

/-- Adds the code points of some characters to a sum: the sum, and a step for each character. -/
def accumulateFrom (start : UInt64) : List Char → UInt64 × List Step
  | [] => (start, [])
  | c :: rest =>
    let running := Counter.add start c.val.toUInt64
    let (sum, steps) := accumulateFrom running rest
    (sum, .accumulate c c.val running :: steps)

/-- Adds the code points of a text to a sum. -/
def accumulate (text : String) (start : UInt64) : UInt64 × List Step :=
  accumulateFrom start text.toList

/-- The parameter of the function, which has to be defined. -/
def definedParam (state : State) : Except Refusal String :=
  match state.param with
  | some param => .ok param
  | none => .error (.missing "function" "hash")

def initializedSum (state : State) : Except Refusal UInt64 :=
  match state.sum with
  | some sum => .ok sum
  | none => .error (.invalid "sum is not initialized")

/-- The modulus of a call: the one of the state, but at least 1. -/
def callModulus (state : State) : UInt64 :=
  (if state.modulus = 0 then 1 else state.modulus).toUInt64

def perform : Command → Handler Refusal State Effect
  | .define param => do
    modify fun state =>
      { state with param := some param, sum := none, loopVar := none, result := none }
    let input := (← get).input
    return .plain ("defined hash(" ++ param ++ ") with input \"" ++ input ++ "\"")
  | .setInput name value => do
    let state ← get
    Handler.stopIf (state.param.isSome && state.param != some name) (.missing "variable" name)
    set { state with input := value, sum := none, result := none }
    return .plain (name ++ " = \"" ++ value ++ "\"")
  | .initSum => do
    let _ ← definedParam (← get)
    modify fun state => { state with sum := some 0, result := none }
    return .plain "sum = 0"
  | .loop var source => do
    let state ← get
    let param ← definedParam state
    Handler.stopIf (param != source) (.missing "variable" source)
    let _ ← initializedSum state
    set { state with loopVar := some var }
    let length := state.input.length
    return .plain ("loop " ++ var ++ " over \"" ++ state.input ++ s!"\" ({length} characters)")
  | .accumulate var => do
    let state ← get
    Handler.stopIf (state.loopVar != some var) (.missing "loop variable" var)
    let start ← initializedSum state
    let (sum, steps) := accumulate state.input start
    set { state with sum := some sum }
    return ⟨s!"sum = {sum}", steps⟩
  | .return modulus => do
    let sum ← initializedSum (← get)
    Handler.stopIf (modulus ≤ 0) (.invalid s!"modulus must be positive: {modulus}")
    let result := sum % modulus.toUInt64
    modify fun state => { state with result := some result }
    return .plain s!"return {sum} % {modulus} = {result}"
  | .hashOf text => do
    let modulus := callModulus (← get)
    let (sum, steps) := accumulate text 0
    let result := sum % modulus
    modify fun state => { state with input := text, sum := some sum, result := some result }
    return ⟨"hash(\"" ++ text ++ s!"\") = {sum} % {modulus} = {result}", steps⟩

end Microworlds.Hash

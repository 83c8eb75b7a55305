import Microworlds.Formula.Token

/-!
# Formulas as trees

A formula of one variable `x`, and its value for a number in place of `x`.
-/

namespace Microworlds

inductive Formula.Operator where
  | add
  | subtract
  | multiply
  | divide
  | remainder
  | power
  deriving DecidableEq, Repr

inductive Formula.Function where
  | sin
  | cos
  | tan
  | sqrt
  | ln
  | abs
  | exp
  deriving DecidableEq, Repr

inductive Formula where
  | number (x : Float)
  | unknown
  | negate (inner : Formula)
  | binary (operator : Formula.Operator) (left right : Formula)
  | call (function : Formula.Function) (argument : Formula)
  deriving Inhabited

namespace Formula

def Operator.symbol : Operator → String
  | add => "+"
  | subtract => "-"
  | multiply => "*"
  | divide => "/"
  | remainder => "%"
  | power => "^"

/-- The value of an operation. There is no division and no remainder by zero. -/
def Operator.apply (operator : Operator) (left right : Float) : Except Error Float :=
  match operator with
  | add => .ok (left + right)
  | subtract => .ok (left - right)
  | multiply => .ok (left * right)
  | divide => if right == 0 then .error .divisionByZero else .ok (left / right)
  | remainder => if right == 0 then .error .divisionByZero else .ok (Decimal.remainder left right)
  | power => .ok (Float.pow left right)

namespace Function

def name : Function → String
  | sin => "sin"
  | cos => "cos"
  | tan => "tan"
  | sqrt => "sqrt"
  | ln => "ln"
  | abs => "abs"
  | exp => "exp"

/-- The function of a name. The natural logarithm has two names. -/
def named? : String → Option Function
  | "sin" => some sin
  | "cos" => some cos
  | "tan" => some tan
  | "sqrt" => some sqrt
  | "log" | "ln" => some ln
  | "abs" => some abs
  | "exp" => some exp
  | _ => none

def apply (function : Function) (x : Float) : Float :=
  match function with
  | sin => Float.sin x
  | cos => Float.cos x
  | tan => Float.tan x
  | sqrt => Float.sqrt x
  | ln => Float.log x
  | abs => Float.abs x
  | exp => Float.exp x

end Function

/-- The value of a formula, finite or not. Operands are worked out from left to right. -/
def value (x : Option Float) : Formula → Except Error Float
  | number n => .ok n
  | unknown =>
    match x with
    | some x => .ok x
    | none => .error (.unknownName "x")
  | negate inner => (value x inner).map fun v => -v
  | binary operator left right => do
    let l ← value x left
    let r ← value x right
    operator.apply l r
  | call function argument => (value x argument).map function.apply

/-- The value of a formula for a number in place of `x`, or without such a number. It has to be
finite. -/
def eval (formula : Formula) (x : Option Float) : Except Error Float := do
  let v ← value x formula
  if v.isFinite then return v else throw .notFinite

/-- The formula with the operator in front of its operands. -/
def prefixForm : Formula → String
  | number n => Decimal.display n
  | unknown => "x"
  | negate inner => "(neg " ++ prefixForm inner ++ ")"
  | binary operator left right =>
    "(" ++ operator.symbol ++ " " ++ prefixForm left ++ " " ++ prefixForm right ++ ")"
  | call function argument => "(" ++ function.name ++ " " ++ prefixForm argument ++ ")"

end Formula

end Microworlds

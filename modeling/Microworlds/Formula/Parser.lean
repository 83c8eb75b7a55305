import Microworlds.Formula.Tree

/-!
# Reading formulas

A formula is a sum of products of signed powers:

* sum: product, and any number of `+ product` or `- product`;
* product: unary, and any number of `* unary`, `/ unary` or `% unary`;
* unary: `- unary`, `+ unary`, or a power;
* power: primary, perhaps with `^ unary`;
* primary: a number, `x`, `pi`, `e`, a sum in brackets, or a function with a sum in brackets.

Sums and products associate to the left and powers to the right, so `-2^2` is `-4` and `2^3^2` is
`512`. Every nested construct enters through a unary, and that is where the depth is counted.
-/

namespace Microworlds.Formula

/-- A reader of a part of a formula, which also gives the tokens behind it. -/
abbrev PartReader := List Placed → Except Error (Formula × List Placed)

/-- The error of tokens that should not stand here. -/
def unexpected : List Placed → Error
  | [] => .unexpectedEnd
  | found :: _ => .unexpectedToken found.token.describe found.position

def sumOperator? : Token → Option Operator
  | .plus => some .add
  | .minus => some .subtract
  | _ => none

def productOperator? : Token → Option Operator
  | .times => some .multiply
  | .slash => some .divide
  | .percent => some .remainder
  | _ => none

/-- Goes on with a chain of operators and operands behind its first operand. The number bounds the
operators that are looked for. -/
def chain (operator? : Token → Option Operator) (operand : PartReader) :
    Nat → Formula → PartReader
  | 0, left, tokens => .ok (left, tokens)
  | _ + 1, left, [] => .ok (left, [])
  | bound + 1, left, placed :: rest =>
    match operator? placed.token with
    | none => .ok (left, placed :: rest)
    | some operator => do
      let (right, rest) ← operand rest
      chain operator? operand bound (.binary operator left right) rest

/-- A product, given the reader of its operands. -/
def product (unary : PartReader) : PartReader := fun tokens => do
  let (left, rest) ← unary tokens
  chain productOperator? unary rest.length left rest

/-- A sum, given the reader of the operands of its products. -/
def sum (unary : PartReader) : PartReader := fun tokens => do
  let (left, rest) ← product unary tokens
  chain sumOperator? (product unary) rest.length left rest

/-- A sum and a closing bracket behind it. -/
def bracketed (unary : PartReader) : PartReader := fun tokens => do
  let (inner, rest) ← sum unary tokens
  match rest with
  | ⟨.closing, _⟩ :: rest => return (inner, rest)
  | rest => throw (unexpected rest)

/-- The number of a name that stands for itself. -/
def constant? : String → Option Formula
  | "x" => some .unknown
  | "pi" => some (.number 3.141592653589793)
  | "e" => some (.number 2.718281828459045)
  | _ => none

/-- A number, a name, a call or a sum in brackets. A name before a bracket is a function. -/
def primary (unary : PartReader) : PartReader
  | ⟨.number x, _⟩ :: rest => .ok (.number x, rest)
  | ⟨.opening, _⟩ :: rest => bracketed unary rest
  | ⟨.name name, _⟩ :: rest =>
    match rest with
    | ⟨.opening, _⟩ :: inner =>
      match Function.named? name with
      | none => .error (.unknownFunction name)
      | some function => do
        let (argument, rest) ← bracketed unary inner
        return (.call function argument, rest)
    | _ =>
      match constant? name with
      | some formula => .ok (formula, rest)
      | none => .error (.unknownName name)
  | tokens => .error (unexpected tokens)

/-- A primary, perhaps with an exponent. -/
def power (unary : PartReader) : PartReader := fun tokens => do
  let (base, rest) ← primary unary tokens
  match rest with
  | ⟨.caret, _⟩ :: rest =>
    let (exponent, rest) ← unary rest
    return (.binary .power base exponent, rest)
  | rest => return (base, rest)

/-- A signed power, in which the given number of levels may still be opened. -/
def unary : Nat → PartReader
  | 0, _ => .error .tooDeep
  | levels + 1, tokens =>
    match tokens with
    | ⟨.minus, _⟩ :: rest => do
      let (inner, rest) ← unary levels rest
      return (.negate inner, rest)
    | ⟨.plus, _⟩ :: rest => unary levels rest
    | tokens => power (unary levels) tokens

def ofTokens (tokens : List Placed) : Except Error Formula := do
  let (formula, rest) ← sum (unary maxDepth) tokens
  match rest with
  | [] => return formula
  | rest => throw (unexpected rest)

def parse (text : String) : Except Error Formula := do
  ofTokens (← scan text)

end Microworlds.Formula

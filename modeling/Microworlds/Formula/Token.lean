import Microworlds.Text.Class
import Microworlds.Decimal.Read
import Microworlds.Decimal.Layout

/-!
# Tokens of formulas

`scan` cuts a formula into numbers, names, operators and brackets. Positions count characters. At most
`maxTokens` tokens are taken, so that what is built from them stays small.
-/

namespace Microworlds.Formula

/-- Why a formula cannot be read, or has no value. -/
inductive Error where
  | unexpectedChar (c : Char) (position : Nat)
  | unexpectedEnd
  | unexpectedToken (found : String) (position : Nat)
  | unknownFunction (name : String)
  | unknownName (name : String)
  | divisionByZero
  | notFinite
  | tooDeep
  | tooLong
  deriving DecidableEq, Repr

/-- How many brackets, calls, signs and exponents may be open at once. -/
def maxDepth : Nat := 256

/-- How many tokens a formula may have. -/
def maxTokens : Nat := 1024

def Error.message : Error → String
  | unexpectedChar c position =>
    "unexpected character '" ++ String.singleton c ++ "' at " ++ toString position
  | unexpectedEnd => "unexpected end of expression"
  | unexpectedToken found position => "unexpected " ++ found ++ " at " ++ toString position
  | unknownFunction name => "unknown function: " ++ name
  | unknownName name => "unknown name: " ++ name
  | divisionByZero => "division by zero"
  | notFinite => "result is not a finite number"
  | tooDeep => "expression nested deeper than " ++ toString maxDepth ++ " levels"
  | tooLong => "expression longer than " ++ toString maxTokens ++ " tokens"

/-- A token without its position. -/
inductive Token where
  | number (x : Float)
  | name (text : String)
  | plus
  | minus
  | times
  | slash
  | percent
  | caret
  | opening
  | closing

def Token.describe : Token → String
  | number x => "number " ++ Decimal.display x
  | name text => "name " ++ text
  | plus => "'+'"
  | minus => "'-'"
  | times => "'*'"
  | slash => "'/'"
  | percent => "'%'"
  | caret => "'^'"
  | opening => "'('"
  | closing => "')'"

/-- A token with the position of its first character. -/
structure Placed where
  token : Token
  position : Nat

def symbol? : Char → Option Token
  | '+' => some .plus
  | '-' => some .minus
  | '*' => some .times
  | '/' => some .slash
  | '%' => some .percent
  | '^' => some .caret
  | '(' => some .opening
  | ')' => some .closing
  | _ => none

/-- Digits with at most one point, as long as they last, and the rest. -/
def numberText (cs : List Char) : List Char × List Char :=
  let (whole, rest) := Decimal.digits cs
  match rest with
  | '.' :: rest =>
    let (fraction, rest) := Decimal.digits rest
    (whole ++ '.' :: fraction, rest)
  | _ => (whole, rest)

/-- The token at the front of a text that does not begin with white space, the number of its
characters, and the text behind it. -/
def token? (c : Char) (rest : List Char) : Option (Token × Nat × List Char) :=
  if (Text.digitValue? c).isSome || c == '.' then
    let (text, rest) := numberText (c :: rest)
    (Decimal.read? (String.ofList text)).map fun x => (.number x, text.length, rest)
  else if Text.startsName c then
    let (more, rest) := rest.span Text.continuesName
    some (.name (String.ofList (c :: more)), more.length + 1, rest)
  else (symbol? c).map fun token => (token, 1, rest)

/-- The tokens of a text that begins at the given position, at most as many as there is room for.
The first argument bounds the number of characters. -/
def scanFrom : Nat → Nat → Nat → List Char → Except Error (List Placed)
  | _, _, _, [] => .ok []
  | 0, _, _, _ :: _ => .ok []
  | bound + 1, room, position, c :: rest =>
    if Text.isBlank c then scanFrom bound room (position + 1) rest
    else
      match token? c rest with
      | none => .error (.unexpectedChar c position)
      | some (token, length, rest) =>
        match room with
        | 0 => .error .tooLong
        | room + 1 => do
          let more ← scanFrom bound room (position + length) rest
          return ⟨token, position⟩ :: more

def scan (text : String) : Except Error (List Placed) :=
  scanFrom text.length maxTokens 0 text.toList

end Microworlds.Formula

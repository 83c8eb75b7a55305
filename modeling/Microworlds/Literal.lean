import Microworlds.Text.Lines
import Microworlds.Decimal.Read
import Microworlds.Word

/-!
# Literals

The values written inside statements: whole numbers, amounts, decimals, quoted texts, bare words and
lists of whole numbers. White space around a literal does not count.
-/

namespace Microworlds

/-- Why a text is no literal of the wanted kind. -/
inductive LiteralError where
  | outOfRange (text : String)
  | notInteger (text : String)
  | notDecimal (text : String)
  | badString (text : String)
  | emptyList
  | missing (what : String)
  deriving DecidableEq, Repr

def LiteralError.message : LiteralError → String
  | outOfRange text => "integer out of range: " ++ text
  | notInteger text => "not an integer: " ++ text
  | notDecimal text => "not a number: " ++ text
  | badString text => "malformed string literal: " ++ text
  | emptyList => "empty list"
  | missing what => "missing argument: " ++ what

namespace Literal

open Text

/-- The two ways in which a run of characters fails to be a number up to a limit. -/
inductive DigitsError where
  | notDigit
  | tooLarge
  deriving DecidableEq, Repr

/-- Reads digits from left to right onto a number. The first character that is no digit, or that
takes the number beyond the limit, decides which error it is. -/
def readDigits (limit : Nat) : Nat → List Char → Except DigitsError Nat
  | n, [] => .ok n
  | n, c :: rest =>
    match digitValue? c with
    | none => .error .notDigit
    | some d =>
      let next := 10 * n + d
      if next ≤ limit then readDigits limit next rest else .error .tooLarge

/-- A whole number between two limits: a sign if there is one, and at least one digit. -/
def readSigned (least greatest : Nat) (cs : List Char) : Except DigitsError Int :=
  let (negative, digits) := Decimal.sign cs
  if digits.isEmpty then .error .notDigit
  else if negative then (readDigits least 0 digits).map fun n => -n
  else (readDigits greatest 0 digits).map fun n => n

/-- A whole number without minus, up to a limit. -/
def readUnsigned? (greatest : Nat) (cs : List Char) : Option Nat :=
  let digits := match cs with
    | '+' :: digits => digits
    | digits => digits
  if digits.isEmpty then none else (readDigits greatest 0 digits).toOption

def integer (raw : String) : Except LiteralError Int64 :=
  let cs := trim raw.toList
  match readSigned Word.leastSigned Word.greatestSigned cs with
  | .ok n => .ok (Int64.ofInt n)
  | .error .tooLarge => .error (.outOfRange (String.ofList cs))
  | .error .notDigit => .error (.notInteger (String.ofList cs))

/-- An amount: a whole number that is not negative. -/
def amount (raw : String) : Except LiteralError UInt64 := do
  let n ← integer raw
  if n < 0 then .error (.outOfRange (trimmed raw)) else .ok n.toUInt64

/-- A finite decimal number. -/
def decimal (raw : String) : Except LiteralError Float :=
  let text := trimmed raw
  match Decimal.read? text with
  | some x => if x.isFinite then .ok x else .error (.notDecimal text)
  | none => .error (.notDecimal text)

/-- The text that the inside of a quoted text stands for. A backslash before `n`, `t`, a backslash or
a quote is an escape; before any other character it stands for itself. At the end it is an error. -/
def unescape : List Char → Option (List Char)
  | [] => some []
  | c :: rest =>
    if c = '\\' then
      match rest with
      | [] => none
      | 'n' :: rest => (unescape rest).map ('\n' :: ·)
      | 't' :: rest => (unescape rest).map ('\t' :: ·)
      | '\\' :: rest => (unescape rest).map ('\\' :: ·)
      | '"' :: rest => (unescape rest).map ('"' :: ·)
      | '\'' :: rest => (unescape rest).map ('\'' :: ·)
      | other :: rest => (unescape rest).map fun text => '\\' :: other :: text
    else (unescape rest).map (c :: ·)

/-- What stands between a quote and the same quote at the end. -/
def quotedBody? : List Char → Option (List Char)
  | [] => none
  | first :: rest =>
    if (first = '"' ∨ first = '\'') ∧ rest.getLast? = some first then some rest.dropLast else none

/-- A text between two quotes, either `"` or `'`. -/
def quoted (raw : String) : Except LiteralError String :=
  let cs := trim raw.toList
  match (quotedBody? cs).bind unescape with
  | some text => .ok (String.ofList text)
  | none => .error (.badString (String.ofList cs))

def value (raw : String) : Except LiteralError String :=
  match trim raw.toList with
  | [] => .error (.missing "value")
  | c :: rest =>
    if c = '"' ∨ c = '\'' then quoted (String.ofList (c :: rest)) else .ok (String.ofList (c :: rest))

/-- Whole numbers between commas, at least one. -/
def integers (raw : String) : Except LiteralError (List Int64) :=
  if (trim raw.toList).isEmpty then .error .emptyList
  else (pieces ',' raw.toList).mapM fun piece => integer (String.ofList piece)

end Literal

end Microworlds

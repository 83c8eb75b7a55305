import Microworlds.Text.Class
import Microworlds.Decimal.Binary

/-!
# Reading numbers

Decimal texts as `Float` values, rounded to the nearest. Only the digits `0` to `9` count.
-/

namespace Microworlds.Decimal

def digitsValue (digits : List Char) : Nat :=
  digits.foldl (fun n d => 10 * n + (Text.digitValue? d).getD 0) 0

/-- The digits a text begins with, and the rest. -/
def digits (cs : List Char) : List Char × List Char :=
  cs.span fun d => (Text.digitValue? d).isSome

/-- The value nearest to `mantissa · 10 ^ exponent`. Beyond 400 places on either side of the point
there are no values but infinity and zero. -/
def nearest (mantissa : Nat) (exponent : Int) : Float :=
  let size := (Nat.toDigits 10 mantissa).length + exponent
  if mantissa = 0 || size < -400 then 0.0
  else if 400 < size then 1.0 / 0.0
  else if 0 ≤ exponent then Float.ofScientific mantissa false exponent.toNat
  else Float.ofScientific mantissa true (-exponent).toNat

/-- The sign a text may begin with; `true` for a minus. -/
def sign : List Char → Bool × List Char
  | '+' :: rest => (false, rest)
  | '-' :: rest => (true, rest)
  | cs => (false, cs)

/-- An exponent: nothing, or a letter `e`, a sign and digits up to the end of the text. -/
def exponent? : List Char → Option Int
  | [] => some 0
  | c :: rest =>
    if c = 'e' || c = 'E' then
      let (negative, rest) := sign rest
      match digits rest with
      | ([], _) => none
      | (ds, []) => some (if negative then -digitsValue ds else digitsValue ds)
      | (_, _ :: _) => none
    else none

/-- A number without sign: digits with at most one point among or around them, and an exponent. -/
def unsigned? (cs : List Char) : Option Float :=
  let (whole, rest) := digits cs
  let (fraction, rest) := match rest with
    | '.' :: rest => digits rest
    | _ => ([], rest)
  if whole.isEmpty && fraction.isEmpty then none
  else do
    let e ← exponent? rest
    return nearest (digitsValue (whole ++ fraction)) (e - fraction.length)

/-- A word for a value that has no digits, in any mixture of capitals. -/
def named? (cs : List Char) : Option Float :=
  match String.ofList (cs.map Char.toLower) with
  | "inf" | "infinity" => some (1.0 / 0.0)
  | "nan" => some (0.0 / 0.0)
  | _ => none

/-- The value of a decimal text. White space is not allowed. -/
def read? (text : String) : Option Float := do
  let (negative, rest) := sign text.toList
  let x ← (named? rest).or (unsigned? rest)
  return if negative then -x else x

end Microworlds.Decimal

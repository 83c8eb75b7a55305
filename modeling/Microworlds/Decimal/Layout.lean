import Microworlds.Decimal.Shortest

/-!
# Writing numbers

A `Layout` says how the shortest decimal of a value is set: which values are written out in full
and which with an exponent, and whether a whole number keeps a fraction. There are two of them, for
text that a learner reads and for JSON.
-/

namespace Microworlds.Decimal

/-- How numbers are set. The position of a number is the `k` in `0.d₁d₂… · 10 ^ k`. -/
structure Layout where
  /-- Of two equally near decimals, which one is written. -/
  tie : Tie
  /-- The positions that are written without exponent. -/
  inFull : Int → Bool
  /-- What follows the digits of a whole number. -/
  wholeEnd : String
  nan : String
  infinity : String
  negativeInfinity : String

/-- Numbers in text are never written with an exponent, and a whole number has no fraction. -/
def Layout.text : Layout where
  tie := .upward
  inFull _ := true
  wholeEnd := ""
  nan := "NaN"
  infinity := "inf"
  negativeInfinity := "-inf"

/-- Numbers in JSON are written in full from `0.00001` up to sixteen digits before the point, and a
whole number keeps a zero behind the point. A value that is no number has no text but `null`. -/
def Layout.json : Layout where
  tie := .toEven
  inFull k := -5 < k && k ≤ 16
  wholeEnd := ".0"
  nan := "null"
  infinity := "null"
  negativeInfinity := "null"

namespace Layout

/-- The digits with the point at the given position. -/
def pointed (l : Layout) (digits : List Char) (position : Int) : String :=
  if position ≤ 0 then
    "0." ++ String.ofList (List.replicate (-position).toNat '0' ++ digits)
  else
    let whole := position.toNat
    if digits.length ≤ whole then
      String.ofList (digits ++ List.replicate (whole - digits.length) '0') ++ l.wholeEnd
    else
      String.ofList (digits.take whole) ++ "." ++ String.ofList (digits.drop whole)

/-- One digit before the point, and the exponent with its sign. -/
def exponential (digits : List Char) (position : Int) : String :=
  let exponent := position - 1
  let fraction := match digits with
    | [] => ""
    | [d] => String.singleton d
    | d :: more => String.singleton d ++ "." ++ String.ofList more
  fraction ++ (if exponent < 0 then "e-" else "e+") ++ toString exponent.natAbs

def scaled (l : Layout) (d : Scaled) : String :=
  let digits := Nat.toDigits 10 d.digits
  let position := d.place + digits.length
  if l.inFull position then l.pointed digits position else exponential digits position

def write (l : Layout) (x : Float) : String :=
  match Binary.ofFloat x with
  | none =>
    if x.isNaN then l.nan
    else if Binary.signBit x then l.negativeInfinity
    else l.infinity
  | some b =>
    let size := if b.mantissa = 0 then "0" ++ l.wholeEnd else l.scaled (shortest l.tie b)
    if b.negative then "-" ++ size else size

end Layout

def display (x : Float) : String :=
  Layout.text.write x

/-- A value with one place behind the point, rounded from its exact number. -/
def oneDecimal (x : Float) : String :=
  match Binary.ofFloat x with
  | none => display x
  | some b =>
    let value := b.mantissa * Nat.pow 2 b.exponent.toNat
    let tenths := roundRatio (10 * value) (Nat.pow 2 (-b.exponent).toNat)
    let size := toString (tenths / 10) ++ "." ++ toString (tenths % 10)
    if b.negative then "-" ++ size else size

end Microworlds.Decimal

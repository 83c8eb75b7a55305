import Microworlds.Word

/-!
# Binary floating-point values as numbers

`Binary.ofFloat` takes a finite `Float` apart into a sign, a whole mantissa and a power of two, and
`Binary.toFloat` puts such a number together again. In between, calculations are exact.
-/

namespace Microworlds.Decimal

/-- The number `± mantissa · 2 ^ exponent`. -/
structure Binary where
  negative : Bool
  mantissa : Nat
  exponent : Int
  deriving DecidableEq, Repr

namespace Binary

/-- The least mantissa of a value in full precision, `2 ^ 52`. A fraction is less than it. -/
def leastNormal : Nat := 4503599627370496

/-- The sign bit of a value, which NaN and the zeros have as well. -/
def signBit (x : Float) : Bool :=
  Word.leastSigned ≤ x.toBits.toNat

/-- The parts of a finite value, with the exponent of its last bit. Infinities and NaN have none. -/
def ofFloat (x : Float) : Option Binary :=
  let bits := x.toBits.toNat
  let biased := bits / leastNormal % 2048
  let fraction := bits % leastNormal
  if biased = 2047 then none
  else if biased = 0 then some ⟨signBit x, fraction, -1074⟩
  else some ⟨signBit x, leastNormal + fraction, Int.ofNat biased - 1075⟩

/-- The value nearest to a number, a tie going to the even neighbour. -/
def toFloat (b : Binary) : Float :=
  let size :=
    if 0 ≤ b.exponent then Float.ofScientific (b.mantissa * Nat.pow 2 b.exponent.toNat) false 0
    else
      let places := (-b.exponent).toNat
      Float.ofScientific (b.mantissa * Nat.pow 5 places) true places
  if b.negative then -size else size

end Binary

/-- The remainder of `x` by `y`, exact and with the sign of `x`. -/
def remainder (x y : Float) : Float :=
  match Binary.ofFloat x, Binary.ofFloat y with
  | some a, some b =>
    if b.mantissa = 0 then 0.0 / 0.0
    else
      let exponent := min a.exponent b.exponent
      let left := a.mantissa * Nat.pow 2 (a.exponent - exponent).toNat
      let right := b.mantissa * Nat.pow 2 (b.exponent - exponent).toNat
      Binary.toFloat ⟨a.negative, left % right, exponent⟩
  | some _, none => if y.isNaN then y else x
  | none, _ => 0.0 / 0.0

/-- The value of a whole number of 64 bits, rounded to the nearest. -/
def ofInt64 (n : Int64) : Float :=
  Float.ofInt n.toInt

end Microworlds.Decimal

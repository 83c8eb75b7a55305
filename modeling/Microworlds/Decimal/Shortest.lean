import Microworlds.Decimal.Binary

/-!
# The shortest decimal of a binary value

Every real number of an interval around a binary value is read back as that value. `shortest` finds
the decimal with the fewest digits in this interval, and of those the nearest one to the value. On a
grid of decimals `10 ^ place` only the two neighbours of the value have to be looked at: if any point
of the grid lies in the interval, one of them does.
-/

namespace Microworlds.Decimal

/-- The decimal number `digits · 10 ^ place`. -/
structure Scaled where
  digits : Nat
  place : Int
  deriving DecidableEq, Repr

/-- Which of two equally near decimals is taken: the larger, or the one with an even last digit. -/
inductive Tie
  | upward
  | toEven
  deriving DecidableEq, Repr

/-- A positive value and the interval that is read back as it, on a common scale. -/
structure Span where
  low : Nat
  value : Nat
  high : Nat
  /-- Whether the ends belong to the interval. -/
  closed : Bool

namespace Span

/-- The interval of `mantissa · 2 ^ exponent` in quarters of `2 ^ exponent`. The gap below a power of
two is half as wide, except where the numbers are dense already. -/
def ofBinary (b : Binary) : Span :=
  let narrow := b.mantissa = Binary.leastNormal ∧ -1074 < b.exponent
  { low := 4 * b.mantissa - (if narrow then 1 else 2)
    value := 4 * b.mantissa
    high := 4 * b.mantissa + 2
    closed := b.mantissa % 2 == 0 }

/-- Whether the interval holds the number, given on the same scale. -/
def contains (s : Span) (n : Nat) : Bool :=
  if s.closed then s.low ≤ n && n ≤ s.high else s.low < n && n < s.high

/-- The interval on a scale `factor` times finer. -/
def refine (s : Span) (factor : Nat) : Span :=
  { s with low := s.low * factor, value := s.value * factor, high := s.high * factor }

/-- The multiple of `unit` that is nearest to the value, among its two neighbours in the interval. -/
def nearest? (tie : Tie) (s : Span) (unit : Nat) : Option Nat :=
  let below := s.value / unit
  let left := s.value - below * unit
  let right := (below + 1) * unit - s.value
  match s.contains (below * unit), s.contains ((below + 1) * unit) with
  | false, false => none
  | true, false => some below
  | false, true => some (below + 1)
  | true, true =>
    if left < right then some below
    else if right < left then some (below + 1)
    else match tie with
      | .upward => some (below + 1)
      | .toEven => if below % 2 = 0 then some below else some (below + 1)

end Span

/-- Tries the grids `10 ^ place`, `10 ^ (place - 1)`, … and takes the first that has a decimal. The
value itself is a multiple of `2 ^ (exponent - 2)` there. -/
def search (tie : Tie) (s : Span) (exponent : Int) : Nat → Int → Scaled
  | 0, place => ⟨0, place⟩
  | tries + 1, place =>
    let scale := exponent - 2
    let factor := Nat.pow 2 scale.toNat * Nat.pow 10 (-place).toNat
    let unit := Nat.pow 2 (-scale).toNat * Nat.pow 10 place.toNat
    match (s.refine factor).nearest? tie unit with
    | some digits => ⟨digits, place⟩
    | none => search tie s exponent tries (place - 1)

/-- The decimal with the fewest digits that is read back as a positive value, and of those the
nearest one. The first grid tried is coarser than the value, and on the nineteenth after it the
neighbours are closer together than the ends of the interval. -/
def shortest (tie : Tie) (b : Binary) : Scaled :=
  let bits : Int := b.mantissa.log2 + 1 + b.exponent
  search tie (.ofBinary b) b.exponent 22 (bits * 30103 / 100000 + 1)

/-- The whole number nearest to `value / unit`, a tie going to the even neighbour. -/
def roundRatio (value unit : Nat) : Nat :=
  let below := value / unit
  let rest := value % unit
  if 2 * rest < unit then below
  else if unit < 2 * rest then below + 1
  else below + below % 2

end Microworlds.Decimal

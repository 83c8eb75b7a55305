import Microworlds.Handler
import Microworlds.Word
import Mathlib.Tactic.Lemma

/-!
# Computations that end at a fault

A machine breaks down where the result of an operation leaves the range of its type, where a position
is not one of a list, and where it divides by zero. The definitions that run count in exact numbers and
take lists apart, so that no such fault can be seen in them. A careful computation does the same with
numbers of fixed width and with positions, one operation after the other, and ends with a fault
where a machine would break down.
-/

namespace Microworlds.Proofs

inductive Fault where
  | overflow
  | underflow
  | outOfRange
  | zeroDivisor
  /-- A loop went on beyond its bound. A bound only makes a loop come to an end; that it is never
  reached is shown together with the rest. -/
  | endless
  deriving DecidableEq, Repr

/-- Why a careful computation ends early: a fault, or an error that the program reports. -/
inductive Halt (ε : Type) where
  | fault (fault : Fault)
  | stop (error : ε)

/-- A computation that is watched for faults. -/
abbrev Careful (ε α : Type) := Except (Halt ε) α

namespace Careful

variable {ε σ α : Type}

def fail (fault : Fault) : Careful ε α := .error (.fault fault)

/-- An error of a computation that has no faults. -/
def guarded (check : Except ε α) : Careful ε α := check.mapError .stop

/-! ### Lengths and positions

Lengths and positions are numbers without sign. A number that is smaller than one that its type holds
can be increased. So it is enough to know a length that a position stays below, whatever the width of
positions may be. -/

def increase (held n : Nat) : Careful ε Nat :=
  if n < held then .ok (n + 1) else fail .overflow

def decrease (n amount : Nat) : Careful ε Nat :=
  if amount ≤ n then .ok (n - amount) else fail .underflow

/-- The value at a position. -/
def read (values : List α) (i : Nat) : Careful ε α :=
  match values[i]? with
  | some value => .ok value
  | none => fail .outOfRange

/-- The list in which the values at two positions have changed places. -/
def swap (values : List α) (i j : Nat) : Careful ε (List α) := do
  let x ← read values i
  let y ← read values j
  return (values.set i y).set j x

/-- Takes the value at a position out of a list. -/
def remove (values : List α) (i : Nat) : Careful ε (α × List α) :=
  match values[i]? with
  | some value => .ok (value, values.eraseIdx i)
  | none => fail .outOfRange

/-- The values from one position up to another. -/
def slice (values : List α) (start stop : Nat) : Careful ε (List α) :=
  if start ≤ stop ∧ stop ≤ values.length then .ok ((values.take stop).drop start)
  else fail .outOfRange

/-- Does something at each of so many positions, the first of which is given. -/
def each (body : Nat → σ → Careful ε σ) : Nat → Nat → σ → Careful ε σ
  | _, 0, s => .ok s
  | i, count + 1, s => do each body (i + 1) count (← body i s)

/-- Does something at each position from one up to another, which is left out. -/
def between (start stop : Nat) (body : Nat → σ → Careful ε σ) (s : σ) : Careful ε σ :=
  each body start (stop - start) s

/-! ### Numbers of 64 bits -/

def sum (a b : UInt64) : Careful ε UInt64 :=
  if a.toNat + b.toNat ≤ Word.greatest64 then .ok (a + b) else fail .overflow

def quotient (a b : UInt64) : Careful ε UInt64 :=
  if b = 0 then fail .zeroDivisor else .ok (a / b)

def remainder (a b : UInt64) : Careful ε UInt64 :=
  if b = 0 then fail .zeroDivisor else .ok (a % b)

/-- The difference of two numbers with a sign, if there is one. -/
def difference? (a b : Int64) : Option Int64 := Word.int64? (a.toInt - b.toInt)

def difference (a b : Int64) : Careful ε Int64 :=
  match difference? a b with
  | some d => .ok d
  | none => fail .overflow

/-- The sum of two numbers with a sign, or the last number on the way to it. -/
def saturated (a b : Int64) : Int64 :=
  (Word.int64? (a.toInt + b.toInt)).getD (if b < 0 then Int64.minValue else Int64.maxValue)

/-! ### Operations without a fault -/

lemma ok_bind {β : Type} (a : α) (f : α → Careful ε β) : (Except.ok a >>= f) = f a := rfl

lemma increase_of_lt {held n : Nat} (h : n < held) : (increase held n : Careful ε Nat) = .ok (n + 1) :=
  if_pos h

lemma decrease_of_le {n amount : Nat} (h : amount ≤ n) :
    (decrease n amount : Careful ε Nat) = .ok (n - amount) :=
  if_pos h

lemma read_of_some {values : List α} {i : Nat} {value : α} (h : values[i]? = some value) :
    (read values i : Careful ε α) = .ok value := by
  unfold read
  rw [h]

lemma swap_of_some {values : List α} {i j : Nat} {x y : α} (hx : values[i]? = some x)
    (hy : values[j]? = some y) :
    (swap values i j : Careful ε (List α)) = .ok ((values.set i y).set j x) := by
  unfold swap
  rw [read_of_some hx, read_of_some hy]
  rfl

lemma slice_of_le {values : List α} {start stop : Nat} (hstart : start ≤ stop)
    (hstop : stop ≤ values.length) :
    (slice values start stop : Careful ε (List α)) = .ok ((values.take stop).drop start) :=
  if_pos ⟨hstart, hstop⟩

lemma remove_of_some {values : List α} {i : Nat} {value : α} (h : values[i]? = some value) :
    (remove values i : Careful ε (α × List α)) = .ok (value, values.eraseIdx i) := by
  unfold remove
  rw [h]

lemma quotient_of_ne {a b : UInt64} (h : b ≠ 0) : (quotient a b : Careful ε UInt64) = .ok (a / b) :=
  if_neg h

lemma remainder_of_ne {a b : UInt64} (h : b ≠ 0) :
    (remainder a b : Careful ε UInt64) = .ok (a % b) :=
  if_neg h

end Careful

end Microworlds.Proofs

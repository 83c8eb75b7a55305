import Microworlds.Word

/-!
# Counters

Counters of 64 and 32 bits that stop at the end of their range instead of running over it.
-/

namespace Microworlds.Counter

/-- The sum, or the greatest number if the sum is too large. -/
def add (a b : UInt64) : UInt64 :=
  (Word.uint64? (a.toNat + b.toNat)).getD (UInt64.ofNat Word.greatest64)

/-- The difference, or zero if there is none. -/
def sub (a b : UInt64) : UInt64 :=
  if b ≤ a then a - b else 0

/-- The sum of two small counters, if it is in their range. -/
def sum? (a b : UInt32) : Option UInt32 :=
  Word.uint32? (a.toNat + b.toNat)

/-- The next number, or the same if it is the greatest. -/
def next (a : UInt32) : UInt32 :=
  (sum? a 1).getD a

/-- What is left of a small counter, or zero. -/
def reduce (a b : UInt32) : UInt32 :=
  if b ≤ a then a - b else 0

end Microworlds.Counter

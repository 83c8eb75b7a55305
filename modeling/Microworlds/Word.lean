/-!
# Numbers of fixed width

The ranges of the numbers of 32 and 64 bits, and conversions that refuse what does not fit.
-/

namespace Microworlds.Word

def greatest32 : Nat := 4294967295

def greatest64 : Nat := 18446744073709551615

/-- The greatest number of 64 bits with a sign. -/
def greatestSigned : Nat := 9223372036854775807

/-- The least number of 64 bits with a sign, without its sign. -/
def leastSigned : Nat := 9223372036854775808

def uint32? (n : Nat) : Option UInt32 :=
  if n ≤ greatest32 then some (UInt32.ofNat n) else none

def uint64? (n : Nat) : Option UInt64 :=
  if n ≤ greatest64 then some (UInt64.ofNat n) else none

/-- A number as one of 64 bits with a sign. -/
def int64? (n : Int) : Option Int64 :=
  if -(leastSigned : Int) ≤ n ∧ n ≤ greatestSigned then some (Int64.ofInt n) else none

end Microworlds.Word

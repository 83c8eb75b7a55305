import Microworlds.Counter
import Microworlds.Failure
import Microworlds.Handler
import Microworlds.Table

/-!
# Stocks of resources

A stock says how much there is of each resource. A cost of several resources is paid in full or not at
all, and no balance leaves the range of a counter.
-/

namespace Microworlds

abbrev Cost := List (String × UInt64)

abbrev Stock := Table UInt64

namespace Stock

/-- The amount of a resource; what is not listed is not there. -/
def amount (stock : Stock) (resource : String) : UInt64 :=
  (stock.find? resource).getD 0

def add (stock : Stock) (resource : String) (amount : UInt64) : Stock :=
  stock.insert resource (Counter.add (Stock.amount stock resource) amount)

/-- Takes from a resource what is there of it. A resource that is not listed stays so. -/
def take (stock : Stock) (resource : String) (amount : UInt64) : Stock :=
  match stock.find? resource with
  | some held => stock.insert resource (Counter.sub held amount)
  | none => stock

/-- Refuses a cost that cannot be paid, for the first resource that falls short. -/
def check (stock : Stock) : Cost → Except Refusal Unit
  | [] => .ok ()
  | (resource, need) :: more =>
    let held := Stock.amount stock resource
    if held < need then .error (.insufficient resource need held) else check stock more

/-- Pays a cost. Nothing is taken unless all of it can be paid. -/
def spend (cost : Cost) : Handler Refusal Stock Unit := do
  check (← get) cost
  modify fun stock => cost.foldl (fun left (resource, need) => Stock.take left resource need) stock

def addAll (stock : Stock) (amounts : Cost) : Stock :=
  amounts.foldl (fun left (resource, amount) => Stock.add left resource amount) stock

end Stock

end Microworlds

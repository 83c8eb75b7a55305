import Microworlds.Effect

/-!
# Heaps

A heap is a list in which the number at a position is not greater than the one at the position above
it. The position above `i` is `(i - 1) / 2`, and position 0 is the top.
-/

namespace Microworlds.DataStructure

/-- The list with the numbers at two positions exchanged. -/
def exchange (values : List Int64) (i j : Nat) : List Int64 :=
  match values[i]?, values[j]? with
  | some x, some y => (values.set i y).set j x
  | _, _ => values

/-- Lets the number at a position rise while it is greater than the one above it. -/
def siftUp (values : List Int64) : Nat → List Int64 × List Step
  | 0 => (values, [])
  | below + 1 =>
    let above := below / 2
    match values[above]?, values[below + 1]? with
    | some x, some y =>
      if y ≤ x then (values, [])
      else
        let (result, steps) := siftUp (exchange values above (below + 1)) above
        (result, .heapSwap (below + 1) above :: steps)
    | _, _ => (values, [])
termination_by child => child
decreasing_by omega

/-- Puts a number into a heap: it is added at the end and rises from there. -/
def heapPush (values : List Int64) (value : Int64) : List Int64 × List Step :=
  siftUp (values ++ [value]) values.length

end Microworlds.DataStructure

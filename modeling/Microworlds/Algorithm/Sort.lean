import Microworlds.Effect

/-!
# Sorting and searching step by step

Bubble sort and selection sort of a list of numbers, and linear search, with the steps that show how
they proceed. Both sorts settle every position once.
-/

namespace Microworlds.Algorithm

/-- Carries a number along a list that begins behind position `j`: it changes places with smaller
ones, and a number that is not smaller is carried on instead. What is left behind, the number that
arrives at the end, and the steps. -/
def carry (j : Nat) (held : Int64) : List Int64 → List Int64 × Int64 × List Step
  | [] => ([], held, [])
  | y :: rest =>
    if y < held then
      let (front, top, steps) := carry (j + 1) held rest
      (y :: front, top, .compare j (j + 1) :: .swap j (j + 1) :: steps)
    else
      let (front, top, steps) := carry (j + 1) y rest
      (held :: front, top, .compare j (j + 1) :: steps)

/-- Bubble sort of a list of the given length: the greatest number is carried to the end, and the
numbers before it are sorted in the same way. -/
def bubble : Nat → List Int64 → List Int64 × List Step
  | last + 1, x :: rest =>
    let (front, top, steps) := carry 0 x rest
    let (sorted, more) := bubble last front
    (sorted ++ [top], steps ++ .settle last :: more)
  | _, values => (values, [])

def bubbleSort (values : List Int64) : List Int64 × List Step :=
  bubble values.length values

/-- Looks through a list that begins at position `j` for a number smaller than the least so far. The
position of the least number, the number itself, and the steps. -/
def least (position : Nat) (value : Int64) (j : Nat) : List Int64 → Nat × Int64 × List Step
  | [] => (position, value, [])
  | y :: rest =>
    let (found, smallest, steps) :=
      if y < value then least j y (j + 1) rest else least position value (j + 1) rest
    (found, smallest, .compare position j :: steps)

/-- Selection sort of a list of the given length that begins at position `i`: the least number changes
places with the first, and the numbers behind it are sorted in the same way. -/
def selection : Nat → Nat → List Int64 → List Int64 × List Step
  | length + 1, i, x :: rest =>
    let (found, smallest, steps) := least i x (i + 1) rest
    let (behind, swaps) :=
      if found = i then (rest, [])
      else (rest.set (found - (i + 1)) x, [Step.swap i found])
    let (sorted, more) := selection length (i + 1) behind
    (smallest :: sorted, steps ++ swaps ++ .settle i :: more)
  | _, _, values => (values, [])

/-- Sorts a list by choosing the least number again and again. -/
def selectionSort (values : List Int64) : List Int64 × List Step :=
  selection values.length 0 values

/-- Looks for a number from position `i` on. -/
def searchFrom (target : Int64) (i : Nat) : List Int64 → Option Nat × List Step
  | [] => (none, [])
  | y :: rest =>
    if y = target then (some i, [.inspect i, .found i])
    else
      let (found, steps) := searchFrom target (i + 1) rest
      (found, .inspect i :: steps)

def linearSearch (values : List Int64) (target : Int64) : Option Nat × List Step :=
  searchFrom target 0 values

end Microworlds.Algorithm

import Microworlds.Json.Coded

/-!
# Search trees

Binary trees of numbers. An insertion goes left at a greater number and right otherwise, until there
is no tree any more, and puts a leaf there.
-/

namespace Microworlds.DataStructure

/-- A binary tree with a number at every node. -/
inductive Tree where
  | empty
  | node (value : Int64) (left right : Tree)
  deriving DecidableEq, Repr, Inhabited

namespace Tree

/-- The numbers of a tree from left to right. -/
def inOrder : Tree → List Int64
  | empty => []
  | node value left right => inOrder left ++ value :: inOrder right

def insert (v : Int64) : Tree → Tree
  | empty => node v empty empty
  | node value left right =>
    if v < value then node value (insert v left) right else node value left (insert v right)

/-- The numbers that an insertion passes, from the root down. -/
def path (v : Int64) : Tree → List Int64
  | empty => []
  | node value left right => value :: if v < value then path v left else path v right

/-- The form of a tree in JSON; no tree is `null`. -/
def toJson : Tree → Json
  | empty => .null
  | node value left right =>
    .obj [("value", encode value), ("left", toJson left), ("right", toJson right)]

/-- Reads a tree of at most the given number of levels. A missing subtree is empty. -/
def ofJson? : Nat → Json → Option Tree
  | _, .null => some empty
  | 0, _ => none
  | bound + 1, value => do
    let [value, left, right] ← value.fields? ["value", "left", "right"] | none
    let left ← match left with
      | some left => ofJson? bound left
      | none => some empty
    let right ← match right with
      | some right => ofJson? bound right
      | none => some empty
    return node (← field? value) left right

end Tree

instance : Coded Tree where
  encode := Tree.toJson
  decode? value := Tree.ofJson? value.levels value

end Microworlds.DataStructure

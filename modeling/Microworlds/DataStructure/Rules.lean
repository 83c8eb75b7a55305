import Microworlds.DataStructure.Basic
import Microworlds.Statement.Form

/-!
# Statements about data structures
-/

namespace Microworlds.DataStructure

/-- The kinds of statements, in the order in which they are tried. -/
def rules : List (Rule Command) := [
  { name := "stack.push"
    family := "datastructure.stack"
    sample := "stack.push(1)"
    forms := [⟨[.text "stack.push(", .gap, .slot .value, .gap, .text ")"],
      fun (value, _) => .push value⟩] },
  { name := "stack.pop"
    family := "datastructure.stack"
    sample := "stack.pop()"
    forms := [⟨[.text "stack.pop(", .gap, .text ")"], fun _ => .pop⟩] },
  { name := "stack.top"
    family := "datastructure.stack"
    sample := "stack.top()"
    forms := [⟨[.text "stack.top(", .gap, .text ")"], fun _ => .top⟩] },
  { name := "stack.print_top"
    family := "datastructure.stack"
    sample := "print(\"top: \" + stack.top())"
    forms := [⟨[.text "print(", .gap, .slot .quoted, .gap, .text "+", .gap, .text "stack.top(", .gap,
      .text ")", .gap, .text ")"], fun (text, _) => .printTop text⟩] },
  { name := "queue.enqueue"
    family := "datastructure.queue"
    sample := "queue.enqueue(\"a\")"
    forms := [⟨[.text "queue.enqueue(", .gap, .slot .value, .gap, .text ")"],
      fun (value, _) => .enqueue value⟩] },
  { name := "queue.dequeue"
    family := "datastructure.queue"
    sample := "queue.dequeue()"
    forms := [⟨[.text "queue.dequeue(", .gap, .text ")"], fun _ => .dequeue⟩] },
  { name := "tree.insert"
    family := "datastructure.tree"
    sample := "tree.insert(5)"
    forms := [⟨[.text "tree.insert(", .gap, .slot .integer, .gap, .text ")"],
      fun (value, _) => .treeInsert value⟩] },
  { name := "heap.insert"
    family := "datastructure.heap"
    sample := "heap.insert(7)"
    forms := [⟨[.text "heap.insert(", .gap, .slot .integer, .gap, .text ")"],
      fun (value, _) => .heapInsert value⟩] },
  { name := "graph.add_node"
    family := "datastructure.graph"
    sample := "graph.addNode(\"A\")"
    forms := [⟨[.text "graph.addNode(", .gap, .slot .value, .gap, .text ")"],
      fun (name, _) => .addNode name⟩] },
  { name := "graph.add_edge"
    family := "datastructure.graph"
    sample := "graph.addEdge(\"A\", \"B\")"
    forms := [⟨[.text "graph.addEdge(", .gap, .slot .value, .gap, .text ",", .gap, .slot .value, .gap,
      .text ")"], fun (source, target, _) => .addEdge source target⟩] }]

end Microworlds.DataStructure

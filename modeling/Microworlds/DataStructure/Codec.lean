import Microworlds.DataStructure.Basic

/-!
# States of data structures in JSON
-/

namespace Microworlds.DataStructure

instance : Coded Graph where
  encode graph := .obj [("nodes", encode graph.nodes), ("edges", encode graph.edges)]
  decode? value := do
    let [nodes, edges] ← value.fields? ["nodes", "edges"] | none
    return ⟨← field? nodes, ← field? edges⟩

/-- The fields of a state. The tree may be missing. -/
instance : Coded State where
  encode state := .obj [
    ("stack", encode state.stack),
    ("queue", encode state.queue),
    ("tree", encode state.tree),
    ("heap", encode state.heap),
    ("graph", encode state.graph),
    ("output", encode state.output)]
  decode? value := do
    let [stack, queue, tree, heap, graph, output] ←
      value.fields? ["stack", "queue", "tree", "heap", "graph", "output"] | none
    let tree ← match tree with
      | some tree => decode? tree
      | none => some .empty
    return ⟨← field? stack, ← field? queue, tree, ← field? heap, ← field? graph, ← field? output⟩

end Microworlds.DataStructure

import Microworlds.DataStructure.Tree
import Microworlds.DataStructure.Heap
import Microworlds.Failure
import Microworlds.Handler
import Microworlds.Algorithm.Basic

/-!
# Data structures

A stack, a queue, a search tree, a heap and a graph side by side.
-/

namespace Microworlds.DataStructure

/-- A graph with named nodes. Edges may stand twice. -/
structure Graph where
  nodes : List String
  edges : List (String × String)
  deriving DecidableEq, Repr

/-- The content of the structures, and what has been printed. -/
structure State where
  /-- The top of the stack is the last value. -/
  stack : List String
  /-- The front of the queue is the first value. -/
  queue : List String
  tree : Tree
  heap : List Int64
  graph : Graph
  output : List String
  deriving DecidableEq, Repr

/-- Before the first statement everything is empty. -/
def State.initial : State := ⟨[], [], .empty, [], ⟨[], []⟩, []⟩

inductive Command where
  | push (value : String)
  | pop
  | top
  | printTop (text : String)
  | enqueue (value : String)
  | dequeue
  | treeInsert (value : Int64)
  | heapInsert (value : Int64)
  | addNode (name : String)
  | addEdge (source target : String)
  deriving DecidableEq, Repr

def topOf (state : State) : Except Refusal String :=
  match state.stack.getLast? with
  | some value => .ok value
  | none => .error (.empty "stack")

/-- Takes the value on top off the stack, if there is one. -/
def popTop (state : State) : Option String × State :=
  (state.stack.getLast?, { state with stack := state.stack.dropLast })

/-- Takes the value in front out of the queue, if there is one. -/
def takeFront (state : State) : Option String × State :=
  (state.queue.head?, { state with queue := state.queue.tail })

/-- Refuses a name that is no node. -/
def isNode (state : State) (name : String) : Except Refusal Unit :=
  if state.graph.nodes.contains name then .ok () else .error (.missing "node" name)

def addEdge (source target : String) : Handler Refusal State Unit := do
  isNode (← get) source
  isNode (← get) target
  modify fun state =>
    { state with graph := { state.graph with edges := state.graph.edges ++ [(source, target)] } }

def perform : Command → Handler Refusal State Effect
  | .push value => do
    modify fun state => { state with stack := state.stack ++ [value] }
    return .plain ("stack push: " ++ value)
  | .pop => do
    let value ← Handler.required (.empty "stack") (← modifyGet popTop)
    return .plain ("stack pop: " ++ value)
  | .top => do
    let value ← topOf (← get)
    return .plain ("stack top: " ++ value)
  | .printTop text => do
    let line := text ++ (← topOf (← get))
    modify fun state => { state with output := state.output ++ [line] }
    return .plain ("output: " ++ line)
  | .enqueue value => do
    modify fun state => { state with queue := state.queue ++ [value] }
    return .plain ("queue enqueue: " ++ value)
  | .dequeue => do
    let value ← Handler.required (.empty "queue") (← modifyGet takeFront)
    return .plain ("queue dequeue: " ++ value)
  | .treeInsert value => do
    let path := (← get).tree.path value
    modify fun state => { state with tree := state.tree.insert value }
    let depth := path.length
    return ⟨s!"tree insert: {value} at depth {depth}", path.map .visit⟩
  | .heapInsert value => do
    let (heap, steps) := heapPush (← get).heap value
    modify fun state => { state with heap }
    let text := showList heap
    return ⟨s!"heap insert: {value} (heap: {text})", steps⟩
  | .addNode name => do
    Handler.stopIf ((← get).graph.nodes.contains name) (.duplicate "node" name)
    modify fun state =>
      { state with graph := { state.graph with nodes := state.graph.nodes ++ [name] } }
    return .plain ("graph node: " ++ name)
  | .addEdge source target => do
    addEdge source target
    return .plain ("graph edge: " ++ source ++ " -> " ++ target)

end Microworlds.DataStructure

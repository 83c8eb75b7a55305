import Microworlds.Proofs.Atomicity
import Microworlds.Proofs.History

/-!
# Operations on data structures

What each command does when it succeeds, and when it is refused. A command acts on one of the five
structures: it finds out nothing about the others and changes nothing in them.
-/

namespace Microworlds.Proofs

variable {state after : DataStructure.State} {command : DataStructure.Command} {effect : Effect}

/-! ### Commands that can be refused -/

lemma perform_pop (state : DataStructure.State) :
    DataStructure.perform .pop state =
      match state.stack.getLast? with
      | some value =>
        .ok (.plain ("stack pop: " ++ value)) { state with stack := state.stack.dropLast }
      | none => .error (.empty "stack") { state with stack := state.stack.dropLast } := by
  change (Handler.required _ state.stack.getLast? >>= _) _ = _
  cases state.stack.getLast? <;> rfl

lemma perform_top (state : DataStructure.State) :
    DataStructure.perform .top state =
      match state.stack.getLast? with
      | some value => .ok (.plain ("stack top: " ++ value)) state
      | none => .error (.empty "stack") state := by
  simp only [DataStructure.perform, run_get, run_liftM, DataStructure.topOf]
  cases state.stack.getLast? <;> rfl

lemma perform_printTop (text : String) (state : DataStructure.State) :
    DataStructure.perform (.printTop text) state =
      match state.stack.getLast? with
      | some value =>
        .ok (.plain ("output: " ++ (text ++ value)))
          { state with output := state.output ++ [text ++ value] }
      | none => .error (.empty "stack") state := by
  simp only [DataStructure.perform, run_get, run_liftM, DataStructure.topOf]
  cases state.stack.getLast? <;> rfl

lemma perform_dequeue (state : DataStructure.State) :
    DataStructure.perform .dequeue state =
      match state.queue.head? with
      | some value => .ok (.plain ("queue dequeue: " ++ value)) { state with queue := state.queue.tail }
      | none => .error (.empty "queue") { state with queue := state.queue.tail } := by
  change (Handler.required _ state.queue.head? >>= _) _ = _
  cases state.queue.head? <;> rfl

lemma perform_addNode (name : String) (state : DataStructure.State) :
    DataStructure.perform (.addNode name) state =
      if name ∈ state.graph.nodes then .error (.duplicate "node" name) state
      else .ok (.plain ("graph node: " ++ name))
        { state with graph := { state.graph with nodes := state.graph.nodes ++ [name] } } := by
  simp only [DataStructure.perform, run_get, run_stopIf, List.contains_iff_mem]
  split <;> rfl

lemma perform_addEdge (source target : String) (state : DataStructure.State) :
    DataStructure.perform (.addEdge source target) state =
      if source ∈ state.graph.nodes then
        if target ∈ state.graph.nodes then
          .ok (.plain ("graph edge: " ++ source ++ " -> " ++ target))
            { state with
              graph := { state.graph with edges := state.graph.edges ++ [(source, target)] } }
        else .error (.missing "node" target) state
      else .error (.missing "node" source) state := by
  simp only [DataStructure.perform, DataStructure.addEdge, bind_assoc, run_get, run_liftM,
    DataStructure.isNode, List.contains_iff_mem]
  by_cases hsource : source ∈ state.graph.nodes
  · by_cases htarget : target ∈ state.graph.nodes
    · simp only [if_pos hsource, if_pos htarget]
      rfl
    · simp only [if_pos hsource, if_neg htarget]
  · simp only [if_neg hsource]

/-! ### Successes and refusals -/

/-- What each command does to the structures when it succeeds, and the effect that it shows. -/
inductive DataChange (state : DataStructure.State) :
    DataStructure.Command → Effect → DataStructure.State → Prop
  | push (value : String) :
    DataChange state (.push value) (.plain ("stack push: " ++ value))
      { state with stack := state.stack ++ [value] }
  | pop (rest : List String) (value : String) (hstack : state.stack = rest ++ [value]) :
    DataChange state .pop (.plain ("stack pop: " ++ value)) { state with stack := rest }
  | top (rest : List String) (value : String) (hstack : state.stack = rest ++ [value]) :
    DataChange state .top (.plain ("stack top: " ++ value)) state
  | printTop (text : String) (rest : List String) (value : String)
      (hstack : state.stack = rest ++ [value]) :
    DataChange state (.printTop text) (.plain ("output: " ++ (text ++ value)))
      { state with output := state.output ++ [text ++ value] }
  | enqueue (value : String) :
    DataChange state (.enqueue value) (.plain ("queue enqueue: " ++ value))
      { state with queue := state.queue ++ [value] }
  | dequeue (value : String) (rest : List String) (hqueue : state.queue = value :: rest) :
    DataChange state .dequeue (.plain ("queue dequeue: " ++ value)) { state with queue := rest }
  | treeInsert (value : Int64) (effect : Effect) :
    DataChange state (.treeInsert value) effect { state with tree := state.tree.insert value }
  | heapInsert (value : Int64) (effect : Effect) :
    DataChange state (.heapInsert value) effect
      { state with heap := (DataStructure.heapPush state.heap value).1 }
  | addNode (name : String) (hnew : name ∉ state.graph.nodes) :
    DataChange state (.addNode name) (.plain ("graph node: " ++ name))
      { state with graph := { state.graph with nodes := state.graph.nodes ++ [name] } }
  | addEdge (source target : String) (hsource : source ∈ state.graph.nodes)
      (htarget : target ∈ state.graph.nodes) :
    DataChange state (.addEdge source target)
      (.plain ("graph edge: " ++ source ++ " -> " ++ target))
      { state with graph := { state.graph with edges := state.graph.edges ++ [(source, target)] } }

/-- When a command is refused, and for what reason. -/
inductive DataRefusal (state : DataStructure.State) : DataStructure.Command → Refusal → Prop
  | pop (hstack : state.stack = []) : DataRefusal state .pop (.empty "stack")
  | top (hstack : state.stack = []) : DataRefusal state .top (.empty "stack")
  | printTop (text : String) (hstack : state.stack = []) :
    DataRefusal state (.printTop text) (.empty "stack")
  | dequeue (hqueue : state.queue = []) : DataRefusal state .dequeue (.empty "queue")
  | addNode (name : String) (hold : name ∈ state.graph.nodes) :
    DataRefusal state (.addNode name) (.duplicate "node" name)
  | source (source target : String) (hsource : source ∉ state.graph.nodes) :
    DataRefusal state (.addEdge source target) (.missing "node" source)
  | target (source target : String) (hsource : source ∈ state.graph.nodes)
      (htarget : target ∉ state.graph.nodes) :
    DataRefusal state (.addEdge source target) (.missing "node" target)

lemma eq_dropLast_append {values : List String} {value : String} (h : values.getLast? = some value) :
    values = values.dropLast ++ [value] :=
  (List.dropLast_append_getLast? value h).symm

lemma data_outcome (command : DataStructure.Command) (state : DataStructure.State) :
    match DataStructure.perform command state with
    | .ok effect after => DataChange state command effect after
    | .error e _ => DataRefusal state command e := by
  cases command with
  | push value => exact .push value
  | pop =>
    rw [perform_pop]
    cases hlast : state.stack.getLast? with
    | some value => exact .pop _ value (eq_dropLast_append hlast)
    | none => exact .pop (List.getLast?_eq_none_iff.mp hlast)
  | top =>
    rw [perform_top]
    cases hlast : state.stack.getLast? with
    | some value => exact .top _ value (eq_dropLast_append hlast)
    | none => exact .top (List.getLast?_eq_none_iff.mp hlast)
  | printTop text =>
    rw [perform_printTop]
    cases hlast : state.stack.getLast? with
    | some value => exact .printTop text _ value (eq_dropLast_append hlast)
    | none => exact .printTop text (List.getLast?_eq_none_iff.mp hlast)
  | enqueue value => exact .enqueue value
  | dequeue =>
    rw [perform_dequeue]
    cases hfirst : state.queue.head? with
    | some value => exact .dequeue value _ (List.eq_cons_of_mem_head? hfirst)
    | none => exact .dequeue (List.head?_eq_none_iff.mp hfirst)
  | treeInsert value => exact .treeInsert value _
  | heapInsert value => exact .heapInsert value _
  | addNode name =>
    rw [perform_addNode]
    by_cases hname : name ∈ state.graph.nodes
    · rw [if_pos hname]
      exact .addNode name hname
    · rw [if_neg hname]
      exact .addNode name hname
  | addEdge source target =>
    rw [perform_addEdge]
    by_cases hsource : source ∈ state.graph.nodes
    · rw [if_pos hsource]
      by_cases htarget : target ∈ state.graph.nodes
      · rw [if_pos htarget]
        exact .addEdge source target hsource htarget
      · rw [if_neg htarget]
        exact .target source target hsource htarget
    · rw [if_neg hsource]
      exact .source source target hsource

lemma data_change (h : DataStructure.perform command state = .ok effect after) :
    DataChange state command effect after := by
  have houtcome := data_outcome command state
  rwa [h] at houtcome

lemma data_refusal {e : Refusal} (h : DataStructure.perform command state = .error e after) :
    DataRefusal state command e := by
  have houtcome := data_outcome command state
  rwa [h] at houtcome

lemma DataChange.top_shown (h : DataChange state command effect after) (htop : command = .top) :
    ∃ rest value, state.stack = rest ++ [value] ∧ effect = .plain ("stack top: " ++ value) ∧
      after = state := by
  subst htop
  cases h with
  | top rest value hstack => exact ⟨rest, value, hstack, rfl, rfl⟩

lemma DataChange.top_printed (h : DataChange state command effect after) (text : String)
    (hprint : command = .printTop text) :
    ∃ rest value, state.stack = rest ++ [value] ∧ effect = .plain ("output: " ++ (text ++ value)) ∧
      after = { state with output := state.output ++ [text ++ value] } := by
  subst hprint
  cases h with
  | printTop _ rest value hstack => exact ⟨rest, value, hstack, rfl, rfl⟩

/-! ### The structure that a command acts on -/

/-- The five structures. What is printed belongs to the stack, whose top it shows. -/
inductive DataPart where
  | stack
  | queue
  | tree
  | heap
  | graph
  deriving DecidableEq

def partOf : DataStructure.Command → DataPart
  | .push _ | .pop | .top | .printTop _ => .stack
  | .enqueue _ | .dequeue => .queue
  | .treeInsert _ => .tree
  | .heapInsert _ => .heap
  | .addNode _ | .addEdge _ _ => .graph

/-- Two states have the same content in a structure. -/
def SameAt : DataPart → DataStructure.State → DataStructure.State → Prop
  | .stack, s, t => s.stack = t.stack ∧ s.output = t.output
  | .queue, s, t => s.queue = t.queue
  | .tree, s, t => s.tree = t.tree
  | .heap, s, t => s.heap = t.heap
  | .graph, s, t => s.graph = t.graph

lemma SameAt.refl (part : DataPart) (state : DataStructure.State) : SameAt part state state := by
  cases part with
  | stack => exact ⟨rfl, rfl⟩
  | queue | tree | heap | graph => exact rfl

lemma SameAt.symm {part : DataPart} {other : DataStructure.State} (h : SameAt part state other) :
    SameAt part other state := by
  cases part with
  | stack => exact ⟨Eq.symm h.1, Eq.symm h.2⟩
  | queue | tree | heap | graph => exact Eq.symm h

lemma DataChange.elsewhere (h : DataChange state command effect after) {part : DataPart}
    (hpart : part ≠ partOf command) {other : DataStructure.State} (hsame : SameAt part state other) :
    SameAt part after other := by
  cases h with
  | push | pop | top | printTop =>
    cases part with
    | stack => exact absurd rfl hpart
    | queue | tree | heap | graph => exact hsame
  | enqueue | dequeue =>
    cases part with
    | queue => exact absurd rfl hpart
    | stack | tree | heap | graph => exact hsame
  | treeInsert =>
    cases part with
    | tree => exact absurd rfl hpart
    | stack | queue | heap | graph => exact hsame
  | heapInsert =>
    cases part with
    | heap => exact absurd rfl hpart
    | stack | queue | tree | graph => exact hsame
  | addNode | addEdge =>
    cases part with
    | graph => exact absurd rfl hpart
    | stack | queue | tree | heap => exact hsame

lemma happen_elsewhere {part : DataPart} (hpart : part ≠ partOf command)
    {other : DataStructure.State} (hsame : SameAt part state other) :
    SameAt part (happen DataStructure.perform state command).after other := by
  obtain ⟨effect, after, hperform, hhappen⟩ | ⟨e, hhappen⟩ :=
    happen_cases (dataStructure_atomic command) state
  · rw [hhappen]
    exact (data_change hperform).elsewhere hpart hsame
  · rw [hhappen]
    exact hsame

lemma happen_alike {other : DataStructure.State} (hsame : SameAt (partOf command) state other) :
    (happen DataStructure.perform state command).outcome =
        (happen DataStructure.perform other command).outcome ∧
      SameAt (partOf command) (happen DataStructure.perform state command).after
        (happen DataStructure.perform other command).after := by
  unfold happen
  cases command with
  | push value =>
    obtain ⟨hstack, houtput⟩ := hsame
    exact ⟨rfl, congrArg (· ++ [value]) hstack, houtput⟩
  | pop =>
    obtain ⟨hstack, houtput⟩ := hsame
    rw [perform_pop, perform_pop, hstack]
    cases other.stack.getLast? <;> exact ⟨rfl, rfl, houtput⟩
  | top =>
    obtain ⟨hstack, houtput⟩ := hsame
    rw [perform_top, perform_top, hstack]
    cases other.stack.getLast? <;> exact ⟨rfl, hstack, houtput⟩
  | printTop text =>
    obtain ⟨hstack, houtput⟩ := hsame
    rw [perform_printTop, perform_printTop, hstack]
    cases other.stack.getLast? with
    | some value => exact ⟨rfl, rfl, congrArg (· ++ [text ++ value]) houtput⟩
    | none => exact ⟨rfl, hstack, houtput⟩
  | enqueue value => exact ⟨rfl, congrArg (· ++ [value]) hsame⟩
  | dequeue =>
    have hqueue : state.queue = other.queue := hsame
    rw [perform_dequeue, perform_dequeue, hqueue]
    cases other.queue.head? <;> exact ⟨rfl, rfl⟩
  | treeInsert value =>
    have htree : state.tree = other.tree := hsame
    simp only [DataStructure.perform, run_get, htree]
    exact ⟨rfl, congrArg (DataStructure.Tree.insert value) htree⟩
  | heapInsert value =>
    have hheap : state.heap = other.heap := hsame
    simp only [DataStructure.perform, run_get, hheap]
    exact ⟨rfl, rfl⟩
  | addNode name =>
    have hgraph : state.graph = other.graph := hsame
    rw [perform_addNode, perform_addNode, hgraph]
    by_cases hname : name ∈ other.graph.nodes
    · rw [if_pos hname, if_pos hname]
      exact ⟨rfl, hgraph⟩
    · rw [if_neg hname, if_neg hname]
      exact ⟨rfl, rfl⟩
  | addEdge source target =>
    have hgraph : state.graph = other.graph := hsame
    rw [perform_addEdge, perform_addEdge, hgraph]
    by_cases hsource : source ∈ other.graph.nodes
    · rw [if_pos hsource, if_pos hsource]
      by_cases htarget : target ∈ other.graph.nodes
      · rw [if_pos htarget, if_pos htarget]
        exact ⟨rfl, rfl⟩
      · rw [if_neg htarget, if_neg htarget]
        exact ⟨rfl, hgraph⟩
    · rw [if_neg hsource, if_neg hsource]
      exact ⟨rfl, hgraph⟩

end Microworlds.Proofs

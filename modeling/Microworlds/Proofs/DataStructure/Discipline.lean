import Microworlds.Proofs.DataStructure.Insertion
import Microworlds.Proofs.DataStructure.Operation
import Mathlib.Data.List.Nodup
import Mathlib.Logic.Relation

/-!
# Every structure keeps its discipline

Whatever is done with the structures and whatever fails, a queue gives its values back in the order in
which it took them, a stack gives back the latest value first, a graph has no edge without its nodes, and
a heap and a tree lose nothing. What is done with one structure has no influence on the others.
-/

namespace Microworlds.Proofs

variable {done : List (DataStructure.Command × Effect)} {state after : DataStructure.State}
  {command : DataStructure.Command} {effect : Effect}

/-! ### What has been done -/

/-- What an effect tells after the words that begin it. -/
def told (lead : String) (effect : Effect) : String :=
  String.ofList (effect.description.toList.drop lead.length)

lemma told_plain (lead value : String) : told lead (.plain (lead ++ value)) = value := by
  have hdrop : (lead ++ value).toList.drop lead.length = value.toList := by
    rw [String.toList_append]
    exact List.drop_left' lead.length_toList
  change String.ofList ((lead ++ value).toList.drop lead.length) = value
  rw [hdrop, String.ofList_toList]

/-- The values that have been put into the queue, in order. -/
def enqueued (done : List (DataStructure.Command × Effect)) : List String :=
  done.filterMap fun
    | (.enqueue value, _) => some value
    | _ => none

/-- The values that have been returned from the queue, in order. -/
def dequeued (done : List (DataStructure.Command × Effect)) : List String :=
  done.filterMap fun
    | (.dequeue, effect) => some (told "queue dequeue: " effect)
    | _ => none

/-- A value is put on the stack, or a value is returned from it. -/
inductive StackAct where
  | push (value : String)
  | pop (value : String)
  deriving DecidableEq

def stackActs (done : List (DataStructure.Command × Effect)) : List StackAct :=
  done.filterMap fun
    | (.push value, _) => some (.push value)
    | (.pop, effect) => some (.pop (told "stack pop: " effect))
    | _ => none

/-- A pop and the push right before it cancel each other if the pop returns the value that was pushed.
What stands between a pop and the push that it cancels has to be cancelled first. -/
inductive Cancels : List StackAct → List StackAct → Prop
  | pair (front back : List StackAct) (value : String) :
    Cancels (front ++ .push value :: .pop value :: back) (front ++ back)

def treeInserted (done : List (DataStructure.Command × Effect)) : List Int64 :=
  done.filterMap fun
    | (.treeInsert value, _) => some value
    | _ => none

def heapInserted (done : List (DataStructure.Command × Effect)) : List Int64 :=
  done.filterMap fun
    | (.heapInsert value, _) => some value
    | _ => none

def addedNodes (done : List (DataStructure.Command × Effect)) : List String :=
  done.filterMap fun
    | (.addNode name, _) => some name
    | _ => none

def addedEdges (done : List (DataStructure.Command × Effect)) : List (String × String) :=
  done.filterMap fun
    | (.addEdge source target, _) => some (source, target)
    | _ => none

/-- What has been added to a graph is there once, and every edge has its nodes. -/
structure Linked (done : List (DataStructure.Command × Effect)) (graph : DataStructure.Graph) :
    Prop where
  nodes : graph.nodes = addedNodes done
  edges : graph.edges = addedEdges done
  distinct : graph.nodes.Nodup
  ends : ∀ edge ∈ graph.edges, edge.1 ∈ graph.nodes ∧ edge.2 ∈ graph.nodes

/-- What holds of each structure after some commands have succeeded. -/
structure Disciplined (done : List (DataStructure.Command × Effect)) (state : DataStructure.State) :
    Prop where
  queue : dequeued done ++ state.queue = enqueued done
  stack : Relation.ReflTransGen Cancels (stackActs done) (state.stack.map .push)
  tree : state.tree.inOrder.Perm (treeInserted done)
  heap : state.heap.Perm (heapInserted done)
  graph : Linked done state.graph

/-! ### Single structures -/

lemma queue_change (h : dequeued done ++ state.queue = enqueued done)
    (hchange : DataChange state command effect after) :
    dequeued (done ++ [(command, effect)]) ++ after.queue = enqueued (done ++ [(command, effect)]) := by
  simp only [dequeued, enqueued, List.filterMap_append] at h ⊢
  cases hchange with
  | enqueue value =>
    rw [← h]
    simp
  | dequeue value rest hqueue =>
    rw [← h, hqueue]
    simp [told_plain]
  | _ => simpa using h

lemma Cancels.append {acts left : List StackAct} (h : Cancels acts left) (more : List StackAct) :
    Cancels (acts ++ more) (left ++ more) := by
  cases h with
  | pair front back value =>
    rw [List.append_assoc, List.append_assoc]
    exact .pair front (back ++ more) value

lemma stack_change (h : Relation.ReflTransGen Cancels (stackActs done) (state.stack.map .push))
    (hchange : DataChange state command effect after) :
    Relation.ReflTransGen Cancels (stackActs (done ++ [(command, effect)]))
      (after.stack.map .push) := by
  have hmore : ∀ more, Relation.ReflTransGen Cancels (stackActs done ++ more)
      (state.stack.map .push ++ more) := fun more =>
    h.lift (· ++ more) fun _ _ hstep => hstep.append more
  have hacts : stackActs (done ++ [(command, effect)]) =
      stackActs done ++ stackActs [(command, effect)] := List.filterMap_append
  rw [hacts]
  cases hchange with
  | push value =>
    rw [List.map_append]
    exact hmore [.push value]
  | pop rest value hstack =>
    -- the values that have been pushed before the last one stay where they are
    have hlast := hmore [.pop value]
    rw [hstack, List.map_append, List.append_assoc] at hlast
    have hcancel : Cancels (rest.map .push ++ .push value :: .pop value :: []) (rest.map .push ++ []) :=
      .pair _ [] value
    rw [List.append_nil] at hcancel
    have hpop : stackActs [(.pop, .plain ("stack pop: " ++ value))] = [.pop value] := by
      simp [stackActs, told_plain]
    rw [hpop]
    exact hlast.tail hcancel
  | _ => simpa [stackActs] using h

lemma tree_change (h : state.tree.inOrder.Perm (treeInserted done))
    (hchange : DataChange state command effect after) :
    after.tree.inOrder.Perm (treeInserted (done ++ [(command, effect)])) := by
  have hdone : treeInserted (done ++ [(command, effect)]) =
      treeInserted done ++ treeInserted [(command, effect)] := List.filterMap_append
  rw [hdone]
  cases hchange with
  | treeInsert value =>
    have hinsert := inOrder_insert_perm value state.tree
    exact (hinsert.trans (h.cons value)).trans (List.perm_append_singleton value _).symm
  | _ => simpa [treeInserted] using h

lemma heap_change (h : state.heap.Perm (heapInserted done))
    (hchange : DataChange state command effect after) :
    after.heap.Perm (heapInserted (done ++ [(command, effect)])) := by
  have hdone : heapInserted (done ++ [(command, effect)]) =
      heapInserted done ++ heapInserted [(command, effect)] := List.filterMap_append
  rw [hdone]
  cases hchange with
  | heapInsert value =>
    have hinsert := heapPush_perm state.heap value
    exact (hinsert.trans (h.cons value)).trans (List.perm_append_singleton value _).symm
  | _ => simpa [heapInserted] using h

lemma Linked.change (h : Linked done state.graph) (hchange : DataChange state command effect after) :
    Linked (done ++ [(command, effect)]) after.graph := by
  have hnodes : addedNodes (done ++ [(command, effect)]) =
      addedNodes done ++ addedNodes [(command, effect)] := List.filterMap_append
  have hedges : addedEdges (done ++ [(command, effect)]) =
      addedEdges done ++ addedEdges [(command, effect)] := List.filterMap_append
  cases hchange with
  | addNode name hnew =>
    refine ⟨?_, ?_, ?_, fun edge hedge => ?_⟩
    · rw [hnodes, ← h.nodes]
      rfl
    · rw [hedges, ← h.edges]
      exact (List.append_nil _).symm
    · exact List.nodup_append_comm.mp (List.nodup_cons.mpr ⟨hnew, h.distinct⟩)
    · obtain ⟨hsource, htarget⟩ := h.ends edge hedge
      exact ⟨List.mem_append_left _ hsource, List.mem_append_left _ htarget⟩
  | addEdge source target hsource htarget =>
    refine ⟨?_, ?_, h.distinct, ?_⟩
    · rw [hnodes, ← h.nodes]
      exact (List.append_nil _).symm
    · rw [hedges, ← h.edges]
      rfl
    · exact List.forall_mem_append.mpr
        ⟨h.ends, List.forall_mem_singleton.mpr ⟨hsource, htarget⟩⟩
  | _ =>
    refine ⟨?_, ?_, h.distinct, h.ends⟩
    · rw [hnodes, ← h.nodes]
      exact (List.append_nil _).symm
    · rw [hedges, ← h.edges]
      exact (List.append_nil _).symm

/-! ### Histories -/

lemma disciplined_initial : Disciplined [] .initial where
  queue := rfl
  stack := .refl
  tree := .refl _
  heap := .refl _
  graph := ⟨rfl, rfl, .nil, nofun⟩

lemma Disciplined.change (h : Disciplined done state)
    (hchange : DataChange state command effect after) :
    Disciplined (done ++ [(command, effect)]) after where
  queue := queue_change h.queue hchange
  stack := stack_change h.stack hchange
  tree := tree_change h.tree hchange
  heap := heap_change h.heap hchange
  graph := h.graph.change hchange

lemma disciplined_history (commands : List DataStructure.Command) :
    Disciplined (successes (history DataStructure.perform .initial commands))
      (reached DataStructure.perform .initial commands) := by
  refine history_induction dataStructure_atomic
    (motive := fun events state => Disciplined (successes events) state) disciplined_initial ?_ ?_
    commands
  · intro events state command effect after hdisciplined hperform
    rw [successes_success]
    exact hdisciplined.change (data_change hperform)
  · intro events state command e hdisciplined
    rwa [successes_failure]

lemma history_without (part : DataPart) (commands : List DataStructure.Command) :
    ((history DataStructure.perform .initial commands).filter fun event =>
          partOf event.command != part).map Event.result =
        (history DataStructure.perform .initial
          (commands.filter fun command => partOf command != part)).map Event.result ∧
      ∀ other, other ≠ part → SameAt other (reached DataStructure.perform .initial commands)
        (reached DataStructure.perform .initial
          (commands.filter fun command => partOf command != part)) := by
  refine history_filter (fun s t => ∀ other, other ≠ part → SameAt other s t)
    (fun command => partOf command != part) ?_ ?_ commands fun other _ => .refl other _
  · intro command state twin hkept hsame
    have hpart : partOf command ≠ part := by simpa using hkept
    obtain ⟨houtcome, hafter⟩ := happen_alike (hsame (partOf command) hpart)
    refine ⟨houtcome, fun other hother => ?_⟩
    by_cases hacted : other = partOf command
    · rw [hacted]
      exact hafter
    · have hsecond := happen_elsewhere hacted (hsame other hother).symm
      exact happen_elsewhere hacted hsecond.symm
  · intro command state twin hleft hsame other hother
    have hpart : partOf command = part := by simpa using hleft
    rw [← hpart] at hother
    exact happen_elsewhere hother (hsame other (hpart ▸ hother))

/-- Every structure keeps its discipline, whatever is tried and whatever fails. The values returned
from the queue and those still in it are the values it took, in order. When every pop has cancelled the
push that it answers, the pushes of the values on the stack are left. A graph has each of its nodes once,
both ends of each of its edges, and the edges in the order in which they were added. A tree and a heap
hold what was inserted into them. A look at the stack shows the value on top and changes no structure,
and a command is refused only if what it needs is not there. A history from which all commands of one
structure have been taken out comes to the same with every other command and in every other structure. -/
theorem structures_keep_discipline (commands : List DataStructure.Command) :
    let events := history DataStructure.perform .initial commands
    let state := reached DataStructure.perform .initial commands
    Disciplined (successes events) state ∧
    (∀ event ∈ events,
      (∀ effect, event.outcome = .ok effect →
        (event.command = .top → ∃ rest value, event.before.stack = rest ++ [value] ∧
          effect = .plain ("stack top: " ++ value) ∧ event.after = event.before) ∧
        ∀ text, event.command = .printTop text → ∃ rest value,
          event.before.stack = rest ++ [value] ∧
          effect = .plain ("output: " ++ (text ++ value)) ∧
          event.after = { event.before with output := event.before.output ++ [text ++ value] }) ∧
      ∀ e, event.outcome = .error e →
        DataRefusal event.before event.command e ∧ event.after = event.before) ∧
    ∀ part,
      let kept := commands.filter fun command => partOf command != part
      (events.filter fun event => partOf event.command != part).map Event.result =
        (history DataStructure.perform .initial kept).map Event.result ∧
      ∀ other, other ≠ part →
        SameAt other state (reached DataStructure.perform .initial kept) := by
  intro events state
  refine ⟨disciplined_history commands, fun event hevent => ⟨fun effect hok => ?_, fun e herror => ?_⟩,
    fun part => history_without part commands⟩
  · have hchange := data_change (perform_of_ok hevent hok)
    exact ⟨hchange.top_shown, hchange.top_printed⟩
  · have hrefused := perform_of_error hevent herror
    exact ⟨data_refusal hrefused, dataStructure_atomic event.command event.before e _ hrefused⟩

/-- Every structure in turn, with a pop, a dequeue and an edge that are refused. -/
def tour : List DataStructure.Command :=
  [.pop, .push "1", .top, .enqueue "a", .push "2", .pop, .dequeue, .dequeue, .push "3",
    .printTop "top: ", .treeInsert 5, .heapInsert 7, .treeInsert 2, .addNode "A", .addEdge "A" "B",
    .addEdge "A" "A"]

theorem tour_keeps_discipline :
    Disciplined (successes (history DataStructure.perform .initial tour))
      ⟨["1", "3"], [], .node 5 (.node 2 .empty .empty) .empty, [7], ⟨["A"], [("A", "A")]⟩,
        ["top: 3"]⟩ ∧
    (∃ event ∈ history DataStructure.perform .initial tour, event.command = .top ∧
      event.outcome = .ok (.plain ("stack top: " ++ "1")) ∧ event.after = event.before) ∧
    (∃ event ∈ history DataStructure.perform .initial tour, event.command = .pop ∧
      event.outcome = .error (.empty "stack") ∧ event.after = event.before) ∧
    SameAt .queue (reached DataStructure.perform .initial tour)
      (reached DataStructure.perform .initial
        (tour.filter fun command => partOf command != .stack)) := by
  obtain ⟨hdisciplined, hevents, hparts⟩ := structures_keep_discipline tour
  have hstate : reached DataStructure.perform .initial tour =
      ⟨["1", "3"], [], .node 5 (.node 2 .empty .empty) .empty, [7], ⟨["A"], [("A", "A")]⟩,
        ["top: 3"]⟩ := by
    decide +kernel
  rw [hstate] at hdisciplined
  refine ⟨hdisciplined, ?_, ?_, (hparts .stack).2 .queue (by decide)⟩
  · have htop : ∃ event ∈ history DataStructure.perform .initial tour, event.command = .top ∧
        event.outcome = .ok (.plain ("stack top: " ++ "1")) :=
      ⟨_, .tail _ (.tail _ (.head _)), happen_command _ _, rfl⟩
    obtain ⟨event, hevent, hcommand, hok⟩ := htop
    obtain ⟨rest, value, -, -, hafter⟩ := ((hevents event hevent).1 _ hok).1 hcommand
    exact ⟨event, hevent, hcommand, hok, hafter⟩
  · have hpop : ∃ event ∈ history DataStructure.perform .initial tour, event.command = .pop ∧
        event.outcome = .error (.empty "stack") :=
      ⟨_, .head _, happen_command _ _, rfl⟩
    obtain ⟨event, hevent, hcommand, herror⟩ := hpop
    exact ⟨event, hevent, hcommand, herror, ((hevents event hevent).2 _ herror).2⟩

end Microworlds.Proofs

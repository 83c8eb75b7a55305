import Microworlds.Language
import Microworlds.Session
import Microworlds.Proofs.Handler

/-!
# Failures leave no trace

Every statement of every scenario either succeeds or leaves the state as it was. In most of them all
checks come before the first change. Two change the state before they know whether they can: a value
is taken off a stack or a queue first, and this changes nothing if there is none.
-/

namespace Microworlds.Proofs

lemma programming_atomic (command : Programming.Command) :
    Atomic (Programming.perform command) := by
  cases command with
  | print text => exact atomic_change _ _
  | printConcat text var =>
    exact reads_get.bind fun state => (reads_liftM _).bind fun value => atomic_change _ _
  | printVar var =>
    exact reads_get.bind fun state => (reads_liftM _).bind fun value => atomic_change _ _
  | assignInt name value => exact atomic_change _ _
  | assignText name value => exact atomic_change _ _
  | augment name sign amount =>
    refine reads_get.bind fun state => (reads_liftM _).bind fun current => ?_
    exact (reads_required _ _).bind fun next => atomic_change _ _
  | condition name comparison bound =>
    exact reads_get.bind fun state => (reads_liftM _).bind fun current => atomic_change _ _

lemma algorithm_atomic (command : Algorithm.Command) : Atomic (Algorithm.perform command) := by
  cases command with
  | declare name values => exact (reads_liftM _).bind fun _ => atomic_change _ _
  | sort name method =>
    refine reads_get.bind fun state => (reads_liftM _).bind fun values => ?_
    exact (reads_liftM _).bind fun _ => atomic_change _ _
  | search name target =>
    exact reads_get.bind fun state => (reads_liftM _).bind fun values => (total_pure _).atomic
  | print text name =>
    exact reads_get.bind fun state => (reads_liftM _).bind fun values => atomic_change _ _

lemma popTop_none (state : DataStructure.State) (h : (DataStructure.popTop state).1 = none) :
    (DataStructure.popTop state).2 = state := by
  have hstack : state.stack = [] := List.getLast?_eq_none_iff.mp h
  simp only [DataStructure.popTop, hstack, List.dropLast_nil]
  rw [← hstack]

lemma takeFront_none (state : DataStructure.State) (h : (DataStructure.takeFront state).1 = none) :
    (DataStructure.takeFront state).2 = state := by
  have hqueue : state.queue = [] := List.head?_eq_none_iff.mp h
  simp only [DataStructure.takeFront, hqueue, List.tail_nil]
  rw [← hqueue]

lemma dataStructure_atomic (command : DataStructure.Command) :
    Atomic (DataStructure.perform command) := by
  cases command with
  | push value => exact atomic_change _ _
  | pop => exact atomic_take _ _ popTop_none
  | top =>
    exact reads_get.bind fun state => (reads_liftM _).bind fun value => (total_pure _).atomic
  | printTop text =>
    exact reads_get.bind fun state => (reads_liftM _).bind fun value => atomic_change _ _
  | enqueue value => exact atomic_change _ _
  | dequeue => exact atomic_take _ _ takeFront_none
  | treeInsert value => exact reads_get.bind fun state => atomic_change _ _
  | heapInsert value => exact reads_get.bind fun state => atomic_change _ _
  | addNode name =>
    exact reads_get.bind fun state => (reads_stopIf _ _).bind fun _ => atomic_change _ _
  | addEdge source target =>
    refine Atomic.bind ?_ fun _ => total_pure _
    refine reads_get.bind fun state => (reads_liftM _).bind fun _ => ?_
    exact reads_get.bind fun state => (reads_liftM _).bind fun _ => (total_modify _).atomic

lemma math_atomic (command : Math.Command) : Atomic (Math.perform command) := by
  cases command with
  | setRange min max =>
    apply Atomic.adaptExcept
    exact (reads_liftM _).bind fun _ => atomic_change _ _
  | plot expression =>
    refine (reads_check _ _).bind fun formula => reads_get.bind fun state => ?_
    refine (reads_check _ _).bind fun width => (reads_stopIf _ _).bind fun _ => ?_
    exact atomic_change _ _
  | circle x y radius =>
    apply Atomic.adaptExcept
    exact (reads_liftM _).bind fun _ => atomic_change _ _
  | rectangle x y width height =>
    apply Atomic.adaptExcept
    exact (reads_liftM _).bind fun _ => (reads_liftM _).bind fun _ => atomic_change _ _
  | point x y label => exact atomic_change _ _
  | calculate expression =>
    apply Atomic.adaptExcept
    exact (reads_liftM _).bind fun formula => (reads_liftM _).bind fun result => atomic_change _ _

lemma physics_atomic (command : Physics.Command) : Atomic (Physics.perform command) := by
  cases command with
  | setGravity g => exact (reads_stopIf _ _).bind fun _ => atomic_change _ _
  | create name x y mass =>
    refine (reads_stopIf _ _).bind fun _ => (reads_stopIf _ _).bind fun _ => ?_
    exact reads_get.bind fun state => (reads_stopIf _ _).bind fun _ => atomic_change _ _
  | applyForce magnitude target =>
    exact reads_get.bind fun state => (reads_required _ _).bind fun pushed => atomic_change _ _
  | start =>
    refine reads_get.bind fun state => (reads_stopIf _ _).bind fun _ => Total.atomic ?_
    exact (total_modify _).bind fun _ => total_get.bind fun _ => total_pure _
  | stop =>
    refine reads_get.bind fun state => (reads_stopIf _ _).bind fun _ => Total.atomic ?_
    exact (total_modify _).bind fun _ => total_get.bind fun _ => total_pure _
  | step frames =>
    -- every body is checked before the first one is moved
    refine reads_get.bind fun state => (reads_stopIf _ _).bind fun _ => ?_
    refine reads_get.bind fun state => (reads_liftM _).bind fun _ => Total.atomic ?_
    exact (total_modify _).bind fun _ => total_get.bind fun _ => total_pure _

lemma collect_total (cell : Game.Position) (effect : Effect) :
    Total (Game.collect cell effect) := by
  refine total_get.bind fun state => ?_
  dsimp only
  split
  · exact (total_set _).bind fun _ => total_pure _
  · exact total_pure _

lemma game_atomic (command : Game.Command) : Atomic (Game.perform command) := by
  cases command with
  | createPlayer x y =>
    refine (reads_liftM _).bind fun cell => reads_get.bind fun state => ?_
    refine (reads_stopIf _ _).bind fun _ => Total.atomic ?_
    exact (total_modify _).bind fun _ => collect_total _ _
  | move direction =>
    refine reads_get.bind fun state => (reads_required _ _).bind fun here => Total.atomic ?_
    exact (total_modify _).bind fun _ => collect_total _ _
  | spawnCoin x y =>
    refine (reads_liftM _).bind fun cell => reads_get.bind fun state => ?_
    exact (reads_stopIf _ _).bind fun _ => atomic_change _ _

lemma hash_atomic (command : Hash.Command) : Atomic (Hash.perform command) := by
  cases command with
  | define param =>
    exact ((total_modify _).bind fun _ => total_get.bind fun _ => total_pure _).atomic
  | setInput name value =>
    refine reads_get.bind fun state => (reads_stopIf _ _).bind fun _ => Total.atomic ?_
    exact (total_set _).bind fun _ => total_pure _
  | initSum =>
    exact reads_get.bind fun state => (reads_liftM _).bind fun _ => atomic_change _ _
  | loop var source =>
    refine reads_get.bind fun state => (reads_liftM _).bind fun param => ?_
    refine (reads_stopIf _ _).bind fun _ => (reads_liftM _).bind fun _ => Total.atomic ?_
    exact (total_set _).bind fun _ => total_pure _
  | accumulate var =>
    refine reads_get.bind fun state => (reads_stopIf _ _).bind fun _ => ?_
    refine (reads_liftM _).bind fun start => Total.atomic ?_
    exact (total_set _).bind fun _ => total_pure _
  | «return» modulus =>
    refine reads_get.bind fun state => (reads_liftM _).bind fun sum => ?_
    exact (reads_stopIf _ _).bind fun _ => atomic_change _ _
  | hashOf text => exact reads_get.bind fun state => atomic_change _ _

lemma spend_atomic (cost : Cost) : Atomic (Stock.spend cost) :=
  reads_get.bind fun _ => (reads_liftM _).bind fun _ => (total_modify _).atomic

lemma strategy_pay_atomic (cost : Cost) : Atomic (Strategy.pay cost) :=
  (spend_atomic cost).on fun _ => rfl

lemma strategy_atomic (command : Strategy.Command) : Atomic (Strategy.perform command) := by
  cases command with
  | define name => exact atomic_change _ _
  | setGoal goal =>
    exact reads_get.bind fun state => (reads_liftM _).bind fun plan => atomic_change _ _
  | build kind x y =>
    refine (reads_required _ _).bind fun cost => (reads_liftM _).bind fun _ => ?_
    refine reads_get.bind fun state => (reads_stopIf _ _).bind fun _ => ?_
    refine (strategy_pay_atomic cost).bind fun _ => ?_
    exact (total_modify _).bind fun _ => total_pure _
  | train kind x y =>
    refine (reads_required _ _).bind fun cost => (reads_liftM _).bind fun _ => ?_
    refine reads_get.bind fun state => (reads_stopIf _ _).bind fun _ => ?_
    refine (strategy_pay_atomic cost).bind fun _ => ?_
    exact (total_modify _).bind fun _ => total_pure _
  | collect resource amount =>
    refine (reads_stopIf _ _).bind fun _ => Total.atomic ?_
    exact (total_modify _).bind fun _ => total_get.bind fun _ => total_pure _
  | execute =>
    refine reads_get.bind fun state => (reads_liftM _).bind fun plan => Total.atomic ?_
    refine (total_modify _).bind fun _ => (total_modify _).bind fun _ => ?_
    exact total_get.bind fun _ => total_pure _

lemma aiChat_atomic (command : AiChat.Command) : Atomic (AiChat.perform command) := by
  cases command with
  | setMode word => exact (reads_required _ _).bind fun mode => atomic_change _ _
  | ask prompt =>
    refine (reads_stopIf _ _).bind fun _ => (reads_liftM _).bind fun total => ?_
    exact reads_get.bind fun state => reads_get.bind fun state => atomic_change _ _
  | refine =>
    refine reads_get.bind fun state => (reads_stopIf _ _).bind fun _ => Total.atomic ?_
    exact (total_modify _).bind fun _ => total_get.bind fun _ => total_pure _
  | analyze =>
    refine reads_get.bind fun state => (reads_required _ _).bind fun quality => ?_
    exact (reads_liftM _).bind fun total => (total_pure _).atomic

lemma colony_pay_atomic (cost : Cost) : Atomic (Colony.pay cost) :=
  (spend_atomic cost).on fun _ => rfl

lemma flood_total : Total Colony.flood :=
  total_get.bind fun _ => (total_modify _).bind fun _ => total_pure _

lemma earthquake_total : Total Colony.earthquake := by
  refine total_get.bind fun _ => (total_modify _).bind fun _ => total_get.bind fun _ => ?_
  refine total_get.bind fun _ => (total_modify _).bind fun _ => total_get.bind fun _ => ?_
  exact total_pure _

lemma colony_atomic (command : Colony.Command) : Atomic (Colony.perform command) := by
  cases command with
  | setResource resource amount => exact (reads_liftM _).bind fun _ => atomic_change _ _
  | adjustResource resource sign amount =>
    exact (reads_liftM _).bind fun _ => reads_get.bind fun state => atomic_change _ _
  | moveColonist x y =>
    refine (reads_liftM _).bind fun _ => reads_get.bind fun state => ?_
    exact (reads_liftM _).bind fun selected => atomic_change _ _
  | heal => exact reads_get.bind fun state => (reads_liftM _).bind fun selected => atomic_change _ _
  | revive =>
    exact reads_get.bind fun state => (reads_required _ _).bind fun revived => atomic_change _ _
  | build kind x y =>
    refine (reads_required _ _).bind fun cost => (reads_liftM _).bind fun _ => ?_
    refine reads_get.bind fun state => (reads_stopIf _ _).bind fun _ => ?_
    refine (colony_pay_atomic _).bind fun _ => ?_
    exact (total_modify _).bind fun _ => total_pure _
  | demolish x y =>
    refine reads_get.bind fun state => (reads_required _ _).bind fun found => Total.atomic ?_
    exact (total_modify _).bind fun _ => (total_modify _).bind fun _ => total_pure _
  | auto on => exact atomic_change _ _
  | pause => exact atomic_change _ _
  | resume => exact atomic_change _ _
  | setWeather word => exact (reads_required _ _).bind fun weather => atomic_change _ _
  | setTemperature degrees => exact atomic_change _ _
  | disaster kind =>
    simp only [Colony.perform]
    split
    · exact flood_total.atomic
    · exact flood_total.atomic
    · exact earthquake_total.atomic
    · exact earthquake_total.atomic
    · exact (reads_throw _).error

lemma perform_atomic (command : Command) : Atomic command.perform := by
  intro state stop state' h
  unfold Command.perform at h
  split at h
  · exact (programming_atomic _).within h
  · exact (algorithm_atomic _).within h
  · exact (dataStructure_atomic _).within h
  · exact (math_atomic _).within h
  · exact (physics_atomic _).within h
  · exact (game_atomic _).within h
  · exact (hash_atomic _).within h
  · exact (strategy_atomic _).within h
  · exact (aiChat_atomic _).within h
  · exact (colony_atomic _).within h
  · -- a command of another scenario
    cases h
    rfl

lemma execute_atomic (rules : List (Rule Command)) (line : String) : Atomic (execute rules line) :=
  (reads_check _ _).bind fun statement => perform_atomic statement.command

/-- A line that is not understood, a statement that the state does not allow and a formula without a
value leave the state as it was. So does a command that is carried out without a line, on a state of
its scenario or of any other. -/
theorem failure_leaves_state (state state' : State) (stop : Stop) :
    (∀ (rules : List (Rule Command)) (line : String),
      execute rules line state = .error stop state' → state' = state) ∧
    (∀ command : Command, command.perform state = .error stop state' → state' = state) :=
  ⟨fun rules line => execute_atomic rules line state stop state',
    fun command => perform_atomic command state stop state'⟩

/-- A colony that has the wood for a house and not the stone. -/
def fewStones : State :=
  .colony { Colony.State.initial with resources := .ofList [("wood", 100), ("stone", 4)] }

theorem unpaid_house_leaves_state :
    (∃ stop state', execute (rulesOf .colony) "build(\"house\",4,4)" fewStones = .error stop state' ∧
      state' = fewStones) ∧
    ∃ stop state', (Command.hash .initSum).perform fewStones = .error stop state' ∧
      state' = fewStones := by
  constructor
  · have hfails : (match execute (rulesOf .colony) "build(\"house\",4,4)" fewStones with
        | .error _ _ => true
        | .ok _ _ => false) = true := by
      decide +kernel
    split at hfails
    · next stop state' h => exact ⟨stop, state', h, (failure_leaves_state _ _ _).1 _ _ h⟩
    · cases hfails
  · exact ⟨_, _, rfl, (failure_leaves_state _ _ _).2 (.hash .initSum) rfl⟩

end Microworlds.Proofs

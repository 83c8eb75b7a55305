import Microworlds.Proofs.Atomicity
import Microworlds.Proofs.Board
import Microworlds.Proofs.History
import Microworlds.Proofs.Stock

/-!
# The ledger of the strategy game

Nothing is paid twice and nothing is lost: at any time a balance is what there was at first, with all
that was collected and the income of all turns, less the costs of what stands on the board.
-/

namespace Microworlds.Proofs

abbrev StrategyEvent := Event Refusal Strategy.Command Strategy.State

/-! ### What commands do -/

def buildingCell (building : Strategy.Building) : Int64 × Int64 := (building.x, building.y)

def troopCell (troop : Strategy.Troop) : Int64 × Int64 := (troop.x, troop.y)

/-- What each command does to the game when it succeeds. -/
inductive StrategyChange (state : Strategy.State) : Strategy.Command → Strategy.State → Prop
  | define (name : String) :
    StrategyChange state (.define name) { state with plan := some ⟨name, none⟩ }
  | setGoal (goal : String) (plan : Strategy.Plan) (hplan : state.plan = some plan) :
    StrategyChange state (.setGoal goal) { state with plan := some { plan with goal := some goal } }
  | build (kind : String) (x y : Int64) (cost : Cost) (resources : Stock)
      (hcost : Strategy.buildingCost? kind = some cost) (hcell : Within 10 8 (x, y))
      (hfree : (x, y) ∉ state.buildings.map buildingCell)
      (hpaid : Paid cost state.resources resources) :
    StrategyChange state (.build kind x y)
      { state with resources, buildings := state.buildings ++ [⟨kind, x, y⟩] }
  | train (kind : String) (x y : Int64) (cost : Cost) (resources : Stock) (health attack : UInt32)
      (hcost : Strategy.unitCost? kind = some cost) (hcell : Within 10 8 (x, y))
      (hfree : (x, y) ∉ state.units.map troopCell)
      (hpaid : Paid cost state.resources resources) :
    StrategyChange state (.train kind x y)
      { state with resources, units := state.units ++ [⟨kind, x, y, health, attack⟩] }
  | collect (resource : String) (amount : UInt64) (hknown : resource ∈ Strategy.resourceNames) :
    StrategyChange state (.collect resource amount)
      { state with resources := Stock.add state.resources resource amount }
  | execute (plan : Strategy.Plan) (hplan : state.plan = some plan) :
    StrategyChange state .execute
      { state with
        resources := Stock.addAll state.resources Strategy.income
        turn := Counter.next state.turn }

lemma buildingCost?_names {kind : String} {cost : Cost} (h : Strategy.buildingCost? kind = some cost) :
    (cost.map Prod.fst).Nodup := by
  unfold Strategy.buildingCost? at h
  split at h <;> cases h <;> decide

lemma unitCost?_names {kind : String} {cost : Cost} (h : Strategy.unitCost? kind = some cost) :
    (cost.map Prod.fst).Nodup := by
  unfold Strategy.unitCost? at h
  split at h <;> cases h <;> decide

lemma onBoard_ok {x y : Int64} {u : Unit} (h : Strategy.onBoard x y = .ok u) : Within 10 8 (x, y) := by
  unfold Strategy.onBoard at h
  split at h
  · next hcell => exact ⟨hcell.1, hcell.2.1, hcell.2.2.1, hcell.2.2.2⟩
  · cases h

lemma definedPlan_ok {state : Strategy.State} {plan : Strategy.Plan}
    (h : Strategy.definedPlan state = .ok plan) : state.plan = some plan := by
  unfold Strategy.definedPlan at h
  split at h
  · next found hplan => cases h; exact hplan
  · cases h

lemma strategy_change {state after : Strategy.State} {command : Strategy.Command} {effect : Effect}
    (h : Strategy.perform command state = .ok effect after) : StrategyChange state command after := by
  cases command with
  | define name =>
    cases h
    exact .define name
  | setGoal goal =>
    obtain ⟨plan, hplan, h⟩ := bind_liftM_ok (bind_get_ok h)
    cases h
    exact .setGoal goal plan (definedPlan_ok hplan)
  | build kind x y =>
    obtain ⟨cost, hcost, h⟩ := bind_required_ok h
    obtain ⟨_, hcell, h⟩ := bind_liftM_ok h
    obtain ⟨hfree, h⟩ := bind_stopIf_ok (bind_get_ok h)
    obtain ⟨_, _, hpay, h⟩ := bind_ok h
    obtain ⟨resources, hspend, rfl⟩ := on_ok hpay
    cases h
    exact .build kind x y cost resources hcost (onBoard_ok hcell) (not_mem_of_any hfree)
      (paid_of_spend (buildingCost?_names hcost) hspend)
  | train kind x y =>
    obtain ⟨cost, hcost, h⟩ := bind_required_ok h
    obtain ⟨_, hcell, h⟩ := bind_liftM_ok h
    obtain ⟨hfree, h⟩ := bind_stopIf_ok (bind_get_ok h)
    obtain ⟨_, _, hpay, h⟩ := bind_ok h
    obtain ⟨resources, hspend, rfl⟩ := on_ok hpay
    cases h
    exact .train kind x y cost resources _ _ hcost (onBoard_ok hcell) (not_mem_of_any hfree)
      (paid_of_spend (unitCost?_names hcost) hspend)
  | collect resource amount =>
    obtain ⟨hknown, h⟩ := bind_stopIf_ok h
    cases h
    exact .collect resource amount (by simpa using hknown)
  | execute =>
    obtain ⟨plan, hplan, h⟩ := bind_liftM_ok (bind_get_ok h)
    cases h
    exact .execute plan (definedPlan_ok hplan)

/-! ### Accounts -/

/-- How much of a resource a command collects if it succeeds. -/
def yield (resource : String) : Strategy.Command → Nat
  | .collect name amount => if name = resource then amount.toNat else 0
  | _ => 0

/-- How much of a resource has been collected so far. -/
def collected (resource : String) (events : List StrategyEvent) : Nat :=
  ((carriedOut events).map (yield resource)).sum

/-- How often a plan has been executed so far. -/
def executed (events : List StrategyEvent) : Nat :=
  (carriedOut events).count .execute

/-- What a thing has taken of a resource. A thing without a known cost has taken nothing. -/
def price (resource : String) (cost : Option Cost) : Nat :=
  cost.elim 0 fun cost => due cost resource

/-- What all buildings and all units on the board have taken of a resource. -/
def invested (resource : String) (state : Strategy.State) : Nat :=
  (state.buildings.map fun b => price resource (Strategy.buildingCost? b.kind)).sum +
    (state.units.map fun u => price resource (Strategy.unitCost? u.kind)).sum

/-- What holds after a number of commands, some of which have executed a plan and some of which have
collected resources, as long as no counter has come to its end. -/
structure Ledger (commands turns : Nat) (takings : String → Nat) (state : Strategy.State) : Prop where
  balance : ∀ resource,
    (Stock.amount state.resources resource).toNat + invested resource state =
      (Stock.amount Strategy.State.initial.resources resource).toNat + takings resource +
        due Strategy.income resource * turns
  turn : state.turn.toNat = turns + 1
  /-- There is a plan before the first turn ends. -/
  planned : turns + (if state.plan.isSome then 1 else 0) ≤ commands
  buildings : Layout 10 8 (state.buildings.map buildingCell)
  units : Layout 10 8 (state.units.map troopCell)
  buildingKinds : ∀ b ∈ state.buildings, (Strategy.buildingCost? b.kind).isSome
  unitKinds : ∀ u ∈ state.units, (Strategy.unitCost? u.kind).isSome

variable {commands turns : Nat} {takings : String → Nat} {state after : Strategy.State}

lemma ledger_initial : Ledger 0 0 (fun _ => 0) .initial where
  balance _ := rfl
  turn := rfl
  planned := Nat.le_refl 0
  buildings := layout_nil
  units := layout_nil
  buildingKinds := nofun
  unitKinds := nofun

lemma Ledger.waited (h : Ledger commands turns takings state) :
    Ledger (commands + 1) turns takings state :=
  { h with planned := Nat.le_succ_of_le h.planned }

lemma spent_add {α : Type} (cost? : α → Option Cost) (things : List α) (new : α) {cost : Cost}
    (hcost : cost? new = some cost) (resource : String) :
    ((things ++ [new]).map fun a => price resource (cost? a)).sum =
      (things.map fun a => price resource (cost? a)).sum + due cost resource := by
  rw [List.map_append, List.sum_append, List.map_singleton, List.sum_singleton, hcost]
  rfl

lemma known_add {α : Type} {things : List α} {cost? : α → Option Cost} {new : α} {cost : Cost}
    (hknown : ∀ a ∈ things, (cost? a).isSome) (hcost : cost? new = some cost) :
    ∀ a ∈ things ++ [new], (cost? a).isSome := by
  refine List.forall_mem_append.mpr ⟨hknown, List.forall_mem_singleton.mpr ?_⟩
  rw [hcost]
  rfl

lemma Ledger.built (h : Ledger commands turns takings state) {kind : String} {x y : Int64}
    {cost : Cost} {resources : Stock} (hcost : Strategy.buildingCost? kind = some cost)
    (hcell : Within 10 8 (x, y)) (hfree : (x, y) ∉ state.buildings.map buildingCell)
    (hpaid : Paid cost state.resources resources) :
    Ledger commands turns takings
      { state with resources, buildings := state.buildings ++ [⟨kind, x, y⟩] } := by
  refine { h with balance := fun resource => ?_, buildings := ?_, buildingKinds := ?_ }
  · have hbefore := h.balance resource
    have hpaid := hpaid.amounts resource
    have hspent := spent_add (fun b => Strategy.buildingCost? b.kind) state.buildings ⟨kind, x, y⟩
      hcost resource
    simp only [invested, hspent] at hbefore ⊢
    omega
  · rw [List.map_append]
    exact h.buildings.add hcell hfree
  · exact known_add h.buildingKinds hcost

lemma Ledger.trained (h : Ledger commands turns takings state) {kind : String} {x y : Int64}
    {cost : Cost} {resources : Stock} {health attack : UInt32}
    (hcost : Strategy.unitCost? kind = some cost) (hcell : Within 10 8 (x, y))
    (hfree : (x, y) ∉ state.units.map troopCell) (hpaid : Paid cost state.resources resources) :
    Ledger commands turns takings
      { state with resources, units := state.units ++ [⟨kind, x, y, health, attack⟩] } := by
  refine { h with balance := fun resource => ?_, units := ?_, unitKinds := ?_ }
  · have hbefore := h.balance resource
    have hpaid := hpaid.amounts resource
    have hspent := spent_add (fun u => Strategy.unitCost? u.kind) state.units
      ⟨kind, x, y, health, attack⟩ hcost resource
    simp only [invested, hspent] at hbefore ⊢
    omega
  · rw [List.map_append]
    exact h.units.add hcell hfree
  · exact known_add h.unitKinds hcost

lemma Ledger.gathered (h : Ledger commands turns takings state) {name : String} {amount : UInt64}
    (hroom : (Stock.amount (Stock.add state.resources name amount) name).toNat < Word.greatest64) :
    Ledger commands turns (fun resource => takings resource + yield resource (.collect name amount))
      { state with resources := Stock.add state.resources name amount } := by
  refine { h with balance := fun resource => ?_ }
  have hbefore := h.balance resource
  rw [amount_add, if_pos rfl] at hroom
  simp only [invested, yield, amount_add] at hbefore ⊢
  by_cases hname : name = resource
  · subst hname
    rw [if_pos rfl, if_pos rfl]
    omega
  · rw [if_neg hname, if_neg hname]
    omega

lemma Ledger.tookTurn (h : Ledger commands turns takings state) (hplan : state.plan.isSome)
    (hcommands : commands + 1 < 2 ^ 32)
    (hroom : ∀ resource, (Stock.amount (Stock.addAll state.resources Strategy.income) resource).toNat <
      Word.greatest64) :
    Ledger (commands + 1) (turns + 1) takings
      { state with
        resources := Stock.addAll state.resources Strategy.income
        turn := Counter.next state.turn } := by
  have hplanned := h.planned
  rw [if_pos hplan] at hplanned
  refine { h with balance := fun resource => ?_, turn := ?_, planned := ?_ }
  · have hbefore := h.balance resource
    have hresource := hroom resource
    rw [amount_addAll] at hresource
    simp only [invested, amount_addAll, Nat.mul_add, Nat.mul_one] at hbefore ⊢
    omega
  · -- a turn takes a command, and the plan took one before it
    simp only [toNat_next, h.turn, Word.greatest32]
    omega
  · simp only [hplan, if_true]
    omega

lemma Ledger.change (h : Ledger commands turns takings state) {command : Strategy.Command}
    (hchange : StrategyChange state command after) (hcommands : commands + 1 < 2 ^ 32)
    (hroom : ∀ resource, (Stock.amount after.resources resource).toNat < Word.greatest64) :
    Ledger (commands + 1) (turns + if command = .execute then 1 else 0)
      (fun resource => takings resource + yield resource command) after := by
  have hplanned := h.planned
  cases hchange with
  | define name =>
    refine { h with planned := ?_ }
    simp only [Option.isSome_some, if_true, reduceCtorEq, if_false]
    omega
  | setGoal goal plan hplan =>
    refine { h with planned := ?_ }
    simp only [Option.isSome_some, if_true, reduceCtorEq, if_false]
    omega
  | build kind x y cost resources hcost hcell hfree hpaid =>
    exact (h.built hcost hcell hfree hpaid).waited
  | train kind x y cost resources health attack hcost hcell hfree hpaid =>
    exact (h.trained hcost hcell hfree hpaid).waited
  | collect resource amount hknown => exact (h.gathered (hroom resource)).waited
  | execute plan hplan => exact h.tookTurn (hplan ▸ rfl) hcommands hroom

/-! ### Games -/

/-- No balance has come to the greatest number of a counter. -/
def HasRoom (stock : Stock) : Prop :=
  ∀ held ∈ stock.entries, held.2.toNat < Word.greatest64

instance (stock : Stock) : Decidable (HasRoom stock) :=
  inferInstanceAs (Decidable (∀ held ∈ stock.entries, held.2.toNat < Word.greatest64))

lemma HasRoom.amount_lt {stock : Stock} (h : HasRoom stock) (resource : String) :
    (Stock.amount stock resource).toNat < Word.greatest64 := by
  obtain hzero | ⟨held, hmem, hheld⟩ := amount_cases stock resource
  · rw [hzero]
    decide
  · rw [← hheld]
    exact h held hmem

lemma ledger_history (commands : List Strategy.Command) :
    (history Strategy.perform .initial commands).length < 2 ^ 32 →
    (∀ event ∈ history Strategy.perform .initial commands, HasRoom event.after.resources) →
      Ledger (history Strategy.perform .initial commands).length
        (executed (history Strategy.perform .initial commands))
        (fun resource => collected resource (history Strategy.perform .initial commands))
        (reached Strategy.perform .initial commands) := by
  refine history_induction strategy_atomic (motive := fun events state => events.length < 2 ^ 32 →
    (∀ event ∈ events, HasRoom event.after.resources) →
      Ledger events.length (executed events) (fun resource => collected resource events) state)
    (fun _ _ => ledger_initial) ?_ ?_ commands
  · intro events state command effect after ih hperform hlength hroom
    rw [List.length_append, List.length_singleton] at hlength
    obtain ⟨hbefore, hafter⟩ := List.forall_mem_append.mp hroom
    have hledger := (ih (by omega) hbefore).change (strategy_change hperform) hlength
      (List.forall_mem_singleton.mp hafter).amount_lt
    simp only [executed, collected, carriedOut_success, List.count_append, List.map_append,
      List.sum_append, List.count_singleton, beq_iff_eq, List.map_singleton, List.sum_singleton,
      List.length_append, List.length_singleton] at hledger ⊢
    exact hledger
  · intro events state command e ih hlength hroom
    rw [List.length_append, List.length_singleton] at hlength
    obtain ⟨hbefore, -⟩ := List.forall_mem_append.mp hroom
    simp only [executed, collected, carriedOut_failure, List.length_append, List.length_singleton]
    exact (ih (by omega) hbefore).waited

/-- Balances are accounted for. In a game in which no counter comes to its end, whatever is tried
and whatever fails, each balance is what there was at first, with what has been collected of it and its
income for each turn that is over, less the costs of all buildings and units on the board. As many turns
are over as plans have been executed. Buildings stand on different cells of the board, units too, and
each of them is of a kind that has a cost. -/
theorem balances_accounted (commands : List Strategy.Command) (hlength : commands.length < 2 ^ 32)
    (hroom : ∀ event ∈ history Strategy.perform .initial commands, HasRoom event.after.resources) :
    let events := history Strategy.perform .initial commands
    let state := reached Strategy.perform .initial commands
    (∀ resource,
      (Stock.amount state.resources resource).toNat + invested resource state =
        (Stock.amount Strategy.State.initial.resources resource).toNat + collected resource events +
          due Strategy.income resource * (state.turn.toNat - 1)) ∧
    state.turn.toNat = executed events + 1 ∧
    Layout 10 8 (state.buildings.map buildingCell) ∧ Layout 10 8 (state.units.map troopCell) ∧
    (∀ b ∈ state.buildings, (Strategy.buildingCost? b.kind).isSome) ∧
    ∀ u ∈ state.units, (Strategy.unitCost? u.kind).isSome := by
  intro events state
  have hledger : Ledger events.length (executed events) (fun resource => collected resource events)
      state := ledger_history commands (by rwa [length_history]) hroom
  refine ⟨fun resource => ?_, hledger.turn, hledger.buildings, hledger.units,
    hledger.buildingKinds, hledger.unitKinds⟩
  rw [hledger.turn, Nat.add_sub_cancel]
  exact hledger.balance resource

/-- A game with a farm, a soldier and a turn. There is no plan for the first try of a turn, and the cell
of the farm is taken when a tower is to stand on it. -/
def opening : List Strategy.Command :=
  [.execute, .define "expansion", .build "farm" 2 3, .build "tower" 2 3, .collect "gold" 20,
    .train "soldier" 2 3, .execute]

theorem opening_accounted :
    opening.length < 2 ^ 32 ∧
    (∀ event ∈ history Strategy.perform .initial opening, HasRoom event.after.resources) ∧
    (∀ resource,
      (Stock.amount (reached Strategy.perform .initial opening).resources resource).toNat +
        invested resource (reached Strategy.perform .initial opening) =
      (Stock.amount Strategy.State.initial.resources resource).toNat +
        collected resource (history Strategy.perform .initial opening) +
        due Strategy.income resource *
          ((reached Strategy.perform .initial opening).turn.toNat - 1)) ∧
    Stock.amount (reached Strategy.perform .initial opening).resources "gold" = 85 := by
  have hlength : opening.length < 2 ^ 32 := by decide
  have hroom : ∀ event ∈ history Strategy.perform .initial opening,
      HasRoom event.after.resources := by
    decide +kernel
  exact ⟨hlength, hroom, (balances_accounted opening hlength hroom).1, by decide +kernel⟩

end Microworlds.Proofs

import Microworlds.Proofs.Atomicity
import Microworlds.Proofs.Board
import Microworlds.Proofs.Counter
import Microworlds.Proofs.History
import Mathlib

/-!
# Coins of the game

A coin lies on the grid until the player comes to its cell, and then it is in the score. None is lost and
none counts twice, wherever coins are spawned and however the player is stopped at the border.
-/

namespace Microworlds.Proofs

abbrev GameEvent := Event Refusal Game.Command Game.State

/-! ### What commands do -/

def gridCell (cell : Game.Position) : Int64 × Int64 := (cell.x, cell.y)

/-- The player comes to a cell. The steps are those that the coin there is worth. -/
inductive Arrival (state : Game.State) (cell : Game.Position) : List Step → Game.State → Prop
  | free (hfree : cell ∉ state.coins) : Arrival state cell [] { state with player := some cell }
  | coin (hcoin : cell ∈ state.coins) (score : UInt64)
      (hscore : score = Counter.add state.score Game.coinValue) :
    Arrival state cell [.collect cell.x cell.y score] ⟨some cell, state.coins.erase cell, score⟩

/-- What each command does to the game when it succeeds, and the steps that show it. -/
inductive GameChange (state : Game.State) : Game.Command → List Step → Game.State → Prop
  | createPlayer (x y : Int64) (steps : List Step) (after : Game.State) (hcell : Within 8 8 (x, y))
      (hplayer : state.player = none) (harrival : Arrival state ⟨x, y⟩ steps after) :
    GameChange state (.createPlayer x y) steps after
  | move (direction : Direction) (here cell : Game.Position) (steps : List Step) (after : Game.State)
      (hplayer : state.player = some here) (hcell : cell = here.step direction)
      (harrival : Arrival state cell steps after) :
    GameChange state (.move direction) (.move cell.x cell.y :: steps) after
  | spawnCoin (x y : Int64) (hcell : Within 8 8 (x, y)) (hfree : ⟨x, y⟩ ∉ state.coins) :
    GameChange state (.spawnCoin x y) [] { state with coins := state.coins ++ [⟨x, y⟩] }

lemma onGrid_ok {x y : Int64} {cell : Game.Position} (h : Game.onGrid x y = .ok cell) :
    Within 8 8 (x, y) ∧ cell = ⟨x, y⟩ := by
  unfold Game.onGrid at h
  split at h
  · next hcell =>
    cases h
    exact ⟨⟨hcell.1, hcell.2.1, hcell.2.2.1, hcell.2.2.2⟩, rfl⟩
  · cases h

lemma collect_ok {state after : Game.State} {cell : Game.Position} {given effect : Effect}
    (h : Game.collect cell given { state with player := some cell } = .ok effect after) :
    ∃ steps, effect.steps = given.steps ++ steps ∧ Arrival state cell steps after := by
  have h := bind_get_ok h
  dsimp only at h
  split at h
  · next hcoin =>
    cases h
    exact ⟨_, rfl, .coin (List.contains_iff_mem.mp hcoin) _ rfl⟩
  · next hfree =>
    cases h
    exact ⟨[], (List.append_nil _).symm, .free fun hmem => hfree (List.contains_iff_mem.mpr hmem)⟩

lemma game_change {state after : Game.State} {command : Game.Command} {effect : Effect}
    (h : Game.perform command state = .ok effect after) :
    GameChange state command effect.steps after := by
  cases command with
  | createPlayer x y =>
    obtain ⟨cell, hgrid, h⟩ := bind_liftM_ok h
    obtain ⟨hcell, rfl⟩ := onGrid_ok hgrid
    obtain ⟨hplayer, h⟩ := bind_stopIf_ok (bind_get_ok h)
    obtain ⟨steps, hsteps, harrival⟩ := collect_ok h
    rw [hsteps]
    exact .createPlayer x y steps after hcell (by simpa using hplayer) harrival
  | move direction =>
    obtain ⟨here, hplayer, h⟩ := bind_required_ok (bind_get_ok h)
    obtain ⟨steps, hsteps, harrival⟩ := collect_ok h
    rw [hsteps]
    exact .move direction here _ steps after hplayer rfl harrival
  | spawnCoin x y =>
    obtain ⟨cell, hgrid, h⟩ := bind_liftM_ok h
    obtain ⟨hcell, rfl⟩ := onGrid_ok hgrid
    obtain ⟨hfree, h⟩ := bind_stopIf_ok (bind_get_ok h)
    cases h
    exact .spawnCoin x y hcell (by simpa using hfree)

/-! ### The grid -/

lemma stepped_inside (coordinate step : Int64) :
    0 ≤ Game.stepped coordinate step ∧ Game.stepped coordinate step < 8 := by
  have hgrid : Game.gridSize.toInt = 8 := rfl
  unfold Game.stepped
  dsimp only
  split
  · exact ⟨by decide, by decide⟩
  · next hleft =>
    split
    · exact ⟨by decide, by decide⟩
    · next hright =>
      have hnext : (Int64.ofInt (coordinate.toInt + step.toInt)).toInt =
          coordinate.toInt + step.toInt :=
        Int64.toInt_ofInt_of_le (by omega) (by omega)
      have hleast : (0 : Int64).toInt = 0 := rfl
      have hborder : (8 : Int64).toInt = 8 := rfl
      rw [Int64.le_iff_toInt_le, Int64.lt_iff_toInt_lt, hnext, hleast, hborder]
      omega

lemma within_step (here : Game.Position) (direction : Direction) :
    Within 8 8 (gridCell (here.step direction)) where
  left := (stepped_inside _ _).1
  right := (stepped_inside _ _).2
  top := (stepped_inside _ _).1
  bottom := (stepped_inside _ _).2

lemma gridCell_injective : Function.Injective gridCell := by
  intro cell other h
  cases cell
  cases other
  cases h
  rfl

/-! ### The purse -/

def spawns : Game.Command → Bool
  | .spawnCoin _ _ => true
  | _ => false

def collects : Step → Bool
  | .collect _ _ _ => true
  | _ => false

/-- How many coins have been spawned so far. -/
def spawned (events : List GameEvent) : Nat :=
  (carriedOut events).countP spawns

/-- How many steps so far show a coin that is collected. -/
def gathered (events : List GameEvent) : Nat :=
  (events.flatMap Event.steps).countP collects

/-- What holds after a number of coins has been spawned and a number of coins has been collected. -/
structure Purse (spawned gathered : Nat) (state : Game.State) : Prop where
  player : ∀ cell ∈ state.player, Within 8 8 (gridCell cell)
  coins : Layout 8 8 (state.coins.map gridCell)
  /-- A coin is on the grid or it has been collected. One was there at first. -/
  conserved : gathered + state.coins.length = 1 + spawned
  score : state.score.toNat = 10 * gathered

variable {made taken : Nat} {state after : Game.State}

lemma purse_initial : Purse 0 0 .initial where
  player := nofun
  coins := layout_nil.add ⟨by decide, by decide, by decide, by decide⟩ List.not_mem_nil
  conserved := rfl
  score := rfl

lemma Purse.distinct (h : Purse made taken state) : state.coins.Nodup :=
  h.coins.distinct.of_map gridCell

lemma Purse.arrived (h : Purse made taken state) (hmade : made < 2 ^ 60) {cell : Game.Position}
    {steps : List Step} (hcell : Within 8 8 (gridCell cell)) (harrival : Arrival state cell steps after) :
    Purse made (taken + steps.countP collects) after := by
  have hplayer : ∀ other ∈ some cell, Within 8 8 (gridCell other) := by
    rintro other ⟨⟩
    exact hcell
  cases harrival with
  | free hfree => exact { h with player := hplayer }
  | coin hcoin score hscore =>
    have hlength := List.length_erase_of_mem hcoin
    have hpos := List.length_pos_of_mem hcoin
    have hconserved := h.conserved
    have hone : [Step.collect cell.x cell.y score].countP collects = 1 := rfl
    rw [hone]
    refine ⟨hplayer, h.coins.sublist (List.erase_sublist.map gridCell), ?_, ?_⟩
    · change taken + 1 + (state.coins.erase cell).length = 1 + made
      omega
    · -- no more coins are collected than there have been, so the score does not come to its end
      have hten : Game.coinValue.toNat = 10 := rfl
      change score.toNat = 10 * (taken + 1)
      rw [hscore, toNat_add, h.score, hten, Word.greatest64]
      omega

lemma Purse.change (h : Purse made taken state) (hmade : made < 2 ^ 60) {command : Game.Command}
    {steps : List Step} (hchange : GameChange state command steps after) :
    Purse (made + [command].countP spawns) (taken + steps.countP collects) after := by
  cases hchange with
  | createPlayer x y steps after hcell hplayer harrival =>
    have hinside : Within 8 8 (gridCell ⟨x, y⟩) := hcell
    exact h.arrived hmade hinside harrival
  | move direction here cell steps after hplayer hcell harrival =>
    have hinside : Within 8 8 (gridCell cell) := hcell ▸ within_step here direction
    have hmove : collects (.move cell.x cell.y) = false := rfl
    rw [List.countP_cons_of_neg (ne_true_of_eq_false hmove)]
    exact h.arrived hmade hinside harrival
  | spawnCoin x y hcell hfree =>
    have hconserved := h.conserved
    refine { h with coins := ?_, conserved := ?_ }
    · rw [List.map_append]
      refine h.coins.add hcell fun hmem => ?_
      exact hfree ((List.mem_map_of_injective gridCell_injective).mp hmem)
    · rw [List.length_append]
      change taken + (state.coins.length + 1) = 1 + (made + 1)
      omega

lemma spawned_le (events : List GameEvent) : spawned events ≤ events.length :=
  List.countP_le_length.trans (length_carriedOut_le events)

lemma purse_history (commands : List Game.Command) (hlength : commands.length < 2 ^ 60) :
    Purse (spawned (history Game.perform .initial commands))
      (gathered (history Game.perform .initial commands)) (reached Game.perform .initial commands) := by
  have hevents : (history Game.perform .initial commands).length < 2 ^ 60 := by
    rwa [length_history]
  revert hevents
  refine history_induction game_atomic (motive := fun events state => events.length < 2 ^ 60 →
    Purse (spawned events) (gathered events) state) (fun _ => purse_initial) ?_ ?_ commands
  · intro events state command effect after ih hperform hlength
    rw [List.length_append, List.length_singleton] at hlength
    have hspawned := spawned_le events
    have hpurse := (ih (by omega)).change (by omega) (game_change hperform)
    simp only [spawned, gathered, carriedOut_success, List.countP_append, List.flatMap_append,
      List.flatMap_singleton] at hpurse ⊢
    exact hpurse
  · intro events state command e ih hlength
    rw [List.length_append, List.length_singleton] at hlength
    have hpurse := ih (by omega)
    simp only [spawned, gathered, carriedOut_failure, List.countP_append, List.flatMap_append,
      List.flatMap_singleton] at hpurse ⊢
    exact hpurse

/-! ### Single events -/

lemma Arrival.player_eq {cell : Game.Position} {steps : List Step} (h : Arrival state cell steps after) :
    after.player = some cell := by
  cases h <;> rfl

lemma Arrival.coins_eq {cell : Game.Position} {steps : List Step} (h : Arrival state cell steps after)
    (hdistinct : state.coins.Nodup) : after.coins = state.coins.filter (· != cell) := by
  cases h with
  | free hfree =>
    refine (List.filter_eq_self.mpr fun other hother => bne_iff_ne.mpr ?_).symm
    rintro rfl
    exact hfree hother
  | coin hcoin score hscore => exact hdistinct.erase_eq_filter cell

lemma Arrival.announced {cell : Game.Position} {steps : List Step} (h : Arrival state cell steps after)
    {x y : Int64} {score : UInt64} (hstep : .collect x y score ∈ steps) :
    after.player = some ⟨x, y⟩ ∧ after.score = score := by
  cases h with
  | free hfree => cases hstep
  | coin hcoin total htotal =>
    cases List.mem_singleton.mp hstep
    exact ⟨rfl, rfl⟩

lemma GameChange.announced {command : Game.Command} {steps : List Step}
    (h : GameChange state command steps after) {x y : Int64} {score : UInt64}
    (hstep : .collect x y score ∈ steps) : after.player = some ⟨x, y⟩ ∧ after.score = score := by
  cases h with
  | createPlayer _ _ _ _ hcell hplayer harrival => exact harrival.announced hstep
  | move direction here cell steps after hplayer hcell harrival =>
    obtain hmove | hmore := List.mem_cons.mp hstep
    · cases hmove
    · exact harrival.announced hmore
  | spawnCoin _ _ hcell hfree => cases hstep

lemma GameChange.takes {command : Game.Command} {steps : List Step}
    (h : GameChange state command steps after) (hdistinct : state.coins.Nodup)
    (hspawns : spawns command = false) :
    ∃ cell, after.player = some cell ∧ after.coins = state.coins.filter (· != cell) := by
  cases h with
  | createPlayer x y steps after hcell hplayer harrival =>
    exact ⟨_, harrival.player_eq, harrival.coins_eq hdistinct⟩
  | move direction here cell steps after hplayer hcell harrival =>
    exact ⟨_, harrival.player_eq, harrival.coins_eq hdistinct⟩
  | spawnCoin x y hcell hfree => cases hspawns

/-! ### Games -/

/-- Coins are conserved, whatever is tried and whatever fails: the player and the coins are on the
grid, no two coins on one cell, and the score is ten for each coin that has ever been there and is not
there now. A step is shown for each coin that is collected, with the cell of the player and the score
after it. When the player is created or moves, blocked or not, the coin on the cell where that ends is
gone, and every other coin is as before. -/
theorem coins_conserved (commands : List Game.Command) (hlength : commands.length < 2 ^ 60) :
    let events := history Game.perform .initial commands
    let state := reached Game.perform .initial commands
    (∀ cell ∈ state.player, Within 8 8 (gridCell cell)) ∧
    Layout 8 8 (state.coins.map gridCell) ∧
    state.coins.length ≤ 1 + spawned events ∧
    state.score.toNat = 10 * (1 + spawned events - state.coins.length) ∧
    gathered events = state.score.toNat / 10 ∧
    ∀ event ∈ events,
      (∀ x y score, Step.collect x y score ∈ event.steps →
        event.after.player = some ⟨x, y⟩ ∧ event.after.score = score) ∧
      ∀ effect, event.outcome = .ok effect → spawns event.command = false →
        ∃ cell, event.after.player = some cell ∧
          event.after.coins = event.before.coins.filter (· != cell) := by
  intro events state
  have hpurse : Purse (spawned events) (gathered events) state := purse_history commands hlength
  have hconserved := hpurse.conserved
  have hscore := hpurse.score
  refine ⟨hpurse.player, hpurse.coins, by omega, by omega, by omega, fun event hevent => ?_⟩
  obtain ⟨earlier, later, hcommands, hhappen⟩ := mem_history hevent
  have hearlier : earlier.length < 2 ^ 60 := by
    rw [hcommands, List.length_append] at hlength
    omega
  have hdistinct := (purse_history earlier hearlier).distinct
  obtain ⟨effect, after, hperform, hok⟩ | ⟨e, herror⟩ :=
    happen_cases (game_atomic event.command) (reached Game.perform .initial earlier)
  · have hchange := game_change hperform
    rw [hhappen, hok]
    exact ⟨fun x y score hstep => hchange.announced hstep,
      fun effect heffect hspawns => hchange.takes hdistinct hspawns⟩
  · rw [hhappen, herror]
    exact ⟨nofun, nofun⟩

/-- There is nobody to move at first. The second coin is spawned under the player, who collects it when
stopped at the border, and then the first one on the way down. A coin outside of the grid is not spawned. -/
def coinWalk : List Game.Command :=
  [.move .up, .createPlayer 2 0, .spawnCoin 2 0, .move .up, .move .down, .spawnCoin 9 9,
    .spawnCoin 4 4]

theorem coinWalk_conserved :
    coinWalk.length < 2 ^ 60 ∧
    (reached Game.perform .initial coinWalk).score.toNat =
      10 * (1 + spawned (history Game.perform .initial coinWalk) -
        (reached Game.perform .initial coinWalk).coins.length) ∧
    gathered (history Game.perform .initial coinWalk) =
      (reached Game.perform .initial coinWalk).score.toNat / 10 ∧
    reached Game.perform .initial coinWalk = ⟨some ⟨2, 1⟩, [⟨4, 4⟩], 20⟩ ∧
    ∃ event ∈ history Game.perform .initial coinWalk, event.command = .move .up ∧
      event.steps = [.move 2 0, .collect 2 0 10] ∧ event.after.player = some ⟨2, 0⟩ ∧
      event.after.score = 10 := by
  have hlength : coinWalk.length < 2 ^ 60 := by decide
  obtain ⟨-, -, -, hscore, hgathered, hevents⟩ := coins_conserved coinWalk hlength
  refine ⟨hlength, hscore, hgathered, by decide +kernel, ?_⟩
  have hblocked : ∃ event ∈ history Game.perform .initial coinWalk, event.command = .move .up ∧
      event.steps = [.move 2 0, .collect 2 0 10] := by
    refine ⟨_, .tail _ (.tail _ (.tail _ (.head _))), happen_command _ _, by decide +kernel⟩
  obtain ⟨event, hevent, hcommand, hsteps⟩ := hblocked
  have hcollect : Step.collect 2 0 10 ∈ event.steps := by
    rw [hsteps]
    exact List.mem_of_mem_tail (List.mem_singleton_self _)
  exact ⟨event, hevent, hcommand, hsteps, (hevents event hevent).1 2 0 10 hcollect⟩

end Microworlds.Proofs

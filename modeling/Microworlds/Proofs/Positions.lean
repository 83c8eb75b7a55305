import Microworlds.State
import Microworlds.Proofs.Board
import Microworlds.Proofs.Decimal.Roundest
import Microworlds.Proofs.Handler

/-!
# Positions that are refused

Six commands take a position on a board, a grid or a map. One that is outside is refused by its
coordinates, which are turned into values before they are displayed. So not every coordinate is displayed
by its own digits.
-/

namespace Microworlds.Proofs

/-- The commands that take a position, with the width and the height of the scene it has to be in. -/
inductive TakesPosition : State → Command → Int64 → Int64 → Int64 × Int64 → Prop
  | strategyBuild (state : Strategy.State) {kind : String} (x y : Int64)
    (h : (Strategy.buildingCost? kind).isSome) :
    TakesPosition (.strategy state) (.strategy (.build kind x y)) Strategy.boardWidth
      Strategy.boardHeight (x, y)
  | train (state : Strategy.State) {kind : String} (x y : Int64)
    (h : (Strategy.unitCost? kind).isSome) :
    TakesPosition (.strategy state) (.strategy (.train kind x y)) Strategy.boardWidth
      Strategy.boardHeight (x, y)
  | createPlayer (state : Game.State) (x y : Int64) :
    TakesPosition (.game state) (.game (.createPlayer x y)) Game.gridSize Game.gridSize (x, y)
  | spawnCoin (state : Game.State) (x y : Int64) :
    TakesPosition (.game state) (.game (.spawnCoin x y)) Game.gridSize Game.gridSize (x, y)
  | colonyBuild (state : Colony.State) {kind : String} (x y : Int64)
    (h : (Colony.structureKind? kind).isSome) :
    TakesPosition (.colony state) (.colony (.build kind x y)) Colony.mapSize Colony.mapSize (x, y)
  | moveColonist (state : Colony.State) (x y : Int64) :
    TakesPosition (.colony state) (.colony (.moveColonist x y)) Colony.mapSize Colony.mapSize (x, y)

/-- The number that a coordinate is displayed by. -/
def DisplayedBy (x : Int64) (s : Int) : Prop :=
  ∃ place n, Shown x.toInt.natAbs place n ∧ s = x.toInt.sign * n

/-- The reason for the refusal of a position with the given coordinates. -/
def positionReason (x y : Int) : String :=
  "invalid position: (" ++ toString x ++ "," ++ toString y ++ ")"

/-! ### The refusal -/

variable {state : State} {command : Command} {width height x y : Int64} {cell : Int64 × Int64}

lemma within_iff : Within width height (x, y) ↔ 0 ≤ x ∧ x < width ∧ 0 ≤ y ∧ y < height :=
  ⟨fun h => ⟨h.left, h.right, h.top, h.bottom⟩, fun h => ⟨h.1, h.2.1, h.2.2.1, h.2.2.2⟩⟩

lemma perform_outside (h : TakesPosition state command width height cell)
    (hout : ¬Within width height cell) :
    command.perform state = .error (.refused (.outside cell.1 cell.2)) state := by
  cases h with
  | strategyBuild state x y hkind =>
    obtain ⟨cost, hcost⟩ := Option.isSome_iff_exists.mp hkind
    have hcheck : Strategy.onBoard x y = .error (.outside x y) := if_neg (mt within_iff.mpr hout)
    simp only [Command.perform, Handler.within, Strategy.perform, Strategy.build, hcost, hcheck]
    rfl
  | train state x y hkind =>
    obtain ⟨cost, hcost⟩ := Option.isSome_iff_exists.mp hkind
    have hcheck : Strategy.onBoard x y = .error (.outside x y) := if_neg (mt within_iff.mpr hout)
    simp only [Command.perform, Handler.within, Strategy.perform, Strategy.train, hcost, hcheck]
    rfl
  | createPlayer state x y =>
    have hcheck : Game.onGrid x y = .error (.outside x y) := if_neg (mt within_iff.mpr hout)
    simp only [Command.perform, Handler.within, Game.perform, hcheck]
    rfl
  | spawnCoin state x y =>
    have hcheck : Game.onGrid x y = .error (.outside x y) := if_neg (mt within_iff.mpr hout)
    simp only [Command.perform, Handler.within, Game.perform, hcheck]
    rfl
  | colonyBuild state x y hkind =>
    obtain ⟨⟨cost, hp⟩, hcost⟩ := Option.isSome_iff_exists.mp hkind
    have hcheck : Colony.onMap x y = .error (.outside x y) := if_neg (mt within_iff.mpr hout)
    simp only [Command.perform, Handler.within, Colony.perform, Colony.build, hcost, hcheck]
    rfl
  | moveColonist state x y =>
    have hcheck : Colony.onMap x y = .error (.outside x y) := if_neg (mt within_iff.mpr hout)
    simp only [Command.perform, Handler.within, Colony.perform, Colony.moveColonist, hcheck]
    rfl

/-! ### The reason -/

lemma display_ofInt64 (x : Int64) :
    ∃ s, DisplayedBy x s ∧ Decimal.display (Decimal.ofInt64 x) = toString s := by
  have hleast := x.le_toInt
  have hgreatest := x.toInt_lt
  obtain ⟨place, n, hshown, htext⟩ := display_ofInt (z := x.toInt) (by omega)
  exact ⟨_, ⟨place, n, hshown, rfl⟩, htext⟩

lemma DisplayedBy.unique {s t : Int} (hs : DisplayedBy x s) (ht : DisplayedBy x t) : s = t := by
  obtain ⟨place, n, hn, rfl⟩ := hs
  obtain ⟨other, m, hm, rfl⟩ := ht
  rw [hn.unique hm]

lemma DisplayedBy.eq_of_le {s : Int} (h : DisplayedBy x s) (hx : x.toInt.natAbs ≤ 2 ^ 53) :
    s = x.toInt := by
  obtain ⟨place, n, hn, rfl⟩ := h
  rw [hn.eq_self hx, Int.sign_mul_natAbs]

lemma message_outside (x y : Int64) : (Refusal.outside x y).message =
    "invalid position: (" ++ Decimal.display (Decimal.ofInt64 x) ++ "," ++
      Decimal.display (Decimal.ofInt64 y) ++ ")" := rfl

lemma toList_positionReason (x y : Int) : (positionReason x y).toList =
    "invalid position: (".toList ++ (signedDigits x ++ ',' :: (signedDigits y ++ [')'])) := by
  unfold positionReason
  simp only [String.toList_append, toList_toString_int, List.append_assoc]
  rfl

lemma signedDigits_inj {a b : Int} : signedDigits a = signedDigits b ↔ a = b := by
  rw [← toList_toString_int, ← toList_toString_int, String.toList_inj]
  exact Int.repr_inj

/-- The digits of the coordinates can be told apart, for they have no comma. -/
lemma positionReason_inj {a b c d : Int} :
    positionReason a b = positionReason c d ↔ a = c ∧ b = d := by
  have hcomma : ∀ n, ',' ∉ signedDigits n := by
    intro n hmem
    obtain hminus | hdigit := mem_signedDigits hmem
    · exact absurd hminus (by decide)
    · exact absurd hdigit (by decide)
  constructor
  · intro h
    have hlists := congrArg String.toList h
    have hend : ',' ∉ signedDigits b ++ [')'] := by
      rw [List.mem_append, not_or]
      exact ⟨hcomma b, by decide⟩
    rw [toList_positionReason, toList_positionReason, List.append_cancel_left_eq,
      List.append_cons_inj_of_notMem (hcomma a) hend] at hlists
    obtain ⟨hleft, -, hright⟩ := hlists
    exact ⟨signedDigits_inj.mp hleft, signedDigits_inj.mp (List.append_cancel_right hright)⟩
  · rintro ⟨rfl, rfl⟩
    rfl

/-- A position outside the scene is refused by the numbers that display its coordinates. Whatever the
state is, it stays as it was. The reason has the digits of the position itself exactly if both
coordinates are displayed by themselves, and this is so up to `2 ^ 53` in size. -/
theorem refused_position_reason (h : TakesPosition state command width height cell)
    (hout : ¬Within width height cell) :
    command.perform state = .error (.refused (.outside cell.1 cell.2)) state ∧
      (∃ s t, DisplayedBy cell.1 s ∧ DisplayedBy cell.2 t ∧
        (Refusal.outside cell.1 cell.2).message = positionReason s t) ∧
      ((Refusal.outside cell.1 cell.2).message = positionReason cell.1.toInt cell.2.toInt ↔
        DisplayedBy cell.1 cell.1.toInt ∧ DisplayedBy cell.2 cell.2.toInt) ∧
      (cell.1.toInt.natAbs ≤ 2 ^ 53 → DisplayedBy cell.1 cell.1.toInt) ∧
      (cell.2.toInt.natAbs ≤ 2 ^ 53 → DisplayedBy cell.2 cell.2.toInt) := by
  obtain ⟨s, hs, hstext⟩ := display_ofInt64 cell.1
  obtain ⟨t, ht, httext⟩ := display_ofInt64 cell.2
  have hmessage : (Refusal.outside cell.1 cell.2).message = positionReason s t := by
    unfold positionReason
    rw [message_outside, hstext, httext]
  refine ⟨perform_outside h hout, ⟨s, t, hs, ht, hmessage⟩, ?_, ?_, ?_⟩
  · rw [hmessage, positionReason_inj]
    constructor
    · rintro ⟨rfl, rfl⟩
      exact ⟨hs, ht⟩
    · rintro ⟨hx, hy⟩
      exact ⟨hs.unique hx, ht.unique hy⟩
  · intro hx
    rwa [hs.eq_of_le hx] at hs
  · intro hy
    rwa [ht.eq_of_le hy] at ht

/-- The first coordinate that is not displayed by itself. -/
theorem farm_far_away_refused :
    (Command.strategy (.build "farm" 9007199254740993 0)).perform (.strategy .initial) =
      .error (.refused (.outside 9007199254740993 0)) (.strategy .initial) ∧
    (Refusal.outside 9007199254740993 0).message = "invalid position: (9007199254740992,0)" ∧
    ¬DisplayedBy 9007199254740993 9007199254740993 ∧ DisplayedBy 0 0 := by
  have hout : ¬Within Strategy.boardWidth Strategy.boardHeight (9007199254740993, 0) :=
    fun h => absurd h.right (by decide)
  have hkind : (Strategy.buildingCost? "farm").isSome := rfl
  obtain ⟨hrefused, -, hexact, -, hsmall⟩ :=
    refused_position_reason (.strategyBuild .initial 9007199254740993 0 hkind) hout
  have hmessage : (Refusal.outside 9007199254740993 0).message =
      "invalid position: (9007199254740992,0)" := by
    decide +kernel
  have hzero : DisplayedBy 0 0 := hsmall (by decide)
  refine ⟨hrefused, hmessage, fun hfirst => ?_, hzero⟩
  have hdigits := hexact.mpr ⟨hfirst, hzero⟩
  rw [hmessage] at hdigits
  exact absurd hdigits (by decide +kernel)

end Microworlds.Proofs

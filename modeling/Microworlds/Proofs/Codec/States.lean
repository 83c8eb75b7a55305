import Microworlds.Proofs.Codec.Laws
import Microworlds.Proofs.Codec.Shape

/-!
# States are decoded as they were encoded

Every record of every scenario is lawful, and so is a state with the name of its scenario. A tree is read
with as many levels as its form has, and these are as many as the tree has.
-/

namespace Microworlds.Proofs

/-! ### Programs, arrays and the hash function -/

instance : LawfulCoded Programming.Value where
  decode_encode value := by
    cases value with
    | int n => exact congrArg (Option.map Programming.Value.int) (decode_encode n)
    | text s => rfl

instance : LawfulCoded Programming.State where
  decode_encode state := by
    refine Eq.trans (decode_record rfl (by decide)) ?_
    simp

instance : LawfulCoded Algorithm.State where
  decode_encode state := by
    refine Eq.trans (decode_record rfl (by decide)) ?_
    simp

instance : LawfulCoded Hash.State where
  decode_encode state := by
    refine Eq.trans (decode_record rfl (by decide)) ?_
    simp

/-! ### Data structures -/

lemma ofJson?_toJson (tree : DataStructure.Tree) {bound : Nat} (h : height tree ≤ bound) :
    DataStructure.Tree.ofJson? bound tree.toJson = some tree := by
  induction tree generalizing bound with
  | empty => cases bound <;> rfl
  | node value left right hleft hright =>
    cases bound with
    | zero => simp [height] at h
    | succ bound =>
      rw [height, Nat.succ_le_succ_iff, Nat.max_le] at h
      rw [DataStructure.Tree.toJson, DataStructure.Tree.ofJson?]
      · refine Eq.trans (decode_record rfl (by decide)) ?_
        simp [hleft h.1, hright h.2]
      · intro hnull
        cases hnull

instance : LawfulCoded DataStructure.Tree where
  decode_encode tree := ofJson?_toJson tree (Nat.le_of_eq (levels_toJson tree).symm)

instance : LawfulCoded DataStructure.Graph where
  decode_encode graph := by
    refine Eq.trans (decode_record rfl (by decide)) ?_
    simp

instance : LawfulCoded DataStructure.State where
  decode_encode state := by
    refine Eq.trans (decode_record rfl (by decide)) ?_
    simp

/-! ### Drawings -/

instance : LawfulCoded Math.Range where
  decode_encode range := by
    refine Eq.trans (decode_record rfl (by decide)) ?_
    simp

instance : LawfulCoded Math.Plot where
  decode_encode plot := by
    refine Eq.trans (decode_record rfl (by decide)) ?_
    simp

instance : LawfulCoded Math.Shape where
  decode_encode shape := by
    cases shape with
    | circle x y radius =>
      refine Eq.trans (decode_tagged (by simp)) ?_
      simp [Json.choice?, Json.fields?, openFields?_obj]
    | rectangle x y width height =>
      refine Eq.trans (decode_tagged (by simp)) ?_
      simp [Json.choice?, Json.fields?, openFields?_obj]

instance : LawfulCoded Math.LabeledPoint where
  decode_encode point := by
    refine Eq.trans (decode_record rfl (by decide)) ?_
    simp

instance : LawfulCoded Math.State where
  decode_encode state := by
    refine Eq.trans (decode_record rfl (by decide)) ?_
    simp

/-! ### Worlds -/

instance : LawfulCoded Physics.Body where
  decode_encode body := by
    refine Eq.trans (decode_record rfl (by decide)) ?_
    simp

instance : LawfulCoded Physics.State where
  decode_encode state := by
    refine Eq.trans (decode_record rfl (by decide)) ?_
    simp

instance : LawfulCoded Game.Position where
  decode_encode cell := by
    refine Eq.trans (decode_record rfl (by decide)) ?_
    simp

instance : NeverNull Game.Position := ⟨fun _ => nofun⟩

instance : LawfulCoded Game.State where
  decode_encode state := by
    refine Eq.trans (decode_record rfl (by decide)) ?_
    simp

instance : LawfulCoded Strategy.Building where
  decode_encode building := by
    refine Eq.trans (decode_record rfl (by decide)) ?_
    simp

instance : LawfulCoded Strategy.Troop where
  decode_encode troop := by
    refine Eq.trans (decode_record rfl (by decide)) ?_
    simp

instance : LawfulCoded Strategy.Plan where
  decode_encode plan := by
    refine Eq.trans (decode_record rfl (by decide)) ?_
    simp

instance : NeverNull Strategy.Plan := ⟨fun _ => nofun⟩

instance : LawfulCoded Strategy.State where
  decode_encode state := by
    refine Eq.trans (decode_record rfl (by decide)) ?_
    simp

instance : LawfulCoded Colony.Colonist where
  decode_encode colonist := by
    refine Eq.trans (decode_record rfl (by decide)) ?_
    simp

instance : LawfulCoded Colony.Structure where
  decode_encode s := by
    refine Eq.trans (decode_record rfl (by decide)) ?_
    simp

instance : LawfulCoded Colony.Weather where
  decode_encode weather := by cases weather <;> rfl

instance : LawfulCoded Colony.State where
  decode_encode state := by
    refine Eq.trans (decode_record rfl (by decide)) ?_
    simp

/-! ### The chat -/

instance : LawfulCoded AiChat.Mode where
  decode_encode mode := by cases mode <;> rfl

instance : LawfulCoded AiChat.Role where
  decode_encode role := by cases role <;> rfl

instance : LawfulCoded AiChat.Message where
  decode_encode message := by
    refine Eq.trans (decode_record rfl (by decide)) ?_
    simp

instance : LawfulCoded AiChat.Quality where
  decode_encode quality := by
    refine Eq.trans (decode_record rfl (by decide)) ?_
    simp

instance : NeverNull AiChat.Quality := ⟨fun _ => nofun⟩

instance : LawfulCoded AiChat.State where
  decode_encode state := by
    refine Eq.trans (decode_record rfl (by decide)) ?_
    simp

/-! ### States with their scenarios, settings and requests -/

lemma named?_name (scenario : Scenario) : Scenario.named? scenario.name = some scenario := by
  cases scenario <;> decide

lemma ofBody?_body (state : State) : State.ofBody? state.body state.scenario = some state := by
  cases state <;> simp [State.ofBody?, State.body, State.scenario]

lemma sound_encode (state : State) : (encode state).sound = true := by
  have hnumbers : Numbers (fun _ => True) state := by
    cases state with
    | math state =>
      refine ⟨by simp, fun shape _ => ?_, by simp, by simp⟩
      cases shape <;> simp [ShapeNumbers]
    | physics state => exact ⟨trivial, by simp [BodyNumbers]⟩
    | _ => trivial
  exact (fits_state hnumbers (n := treeHeight state) (Nat.le_add_right _ _)).sound

instance : LawfulCoded State where
  decode_encode state := by
    obtain ⟨members, hbody, htag, hstate⟩ := encode_state state
    have hsound := sound_encode state
    have hname := named?_name state.scenario
    have hread := ofBody?_body state
    rw [hbody] at hread
    rw [hstate] at hsound ⊢
    change ((Json.obj _).whole?.bind fun value => (value.tagged? "scenario").bind fun tagged =>
      (decode? tagged.1).bind fun name => (Scenario.named? name).bind fun scenario =>
        State.ofBody? tagged.2 scenario) = _
    rw [Json.whole?, if_pos hsound, Option.bind_some, tagged?_obj htag]
    change ((Scenario.named? state.scenario.name).bind fun scenario =>
      State.ofBody? (.obj members) scenario) = _
    rw [hname, Option.bind_some, hread]

lemma encode_state_ne_null (state : State) : encode state ≠ .null := by
  obtain ⟨members, -, -, hstate⟩ := encode_state state
  rw [hstate]
  nofun

instance : NeverNull State := ⟨encode_state_ne_null⟩

@[simp] lemma fieldOr?_some {α : Type} [Coded α] (missing : α) (value : Json) :
    fieldOr? missing (some value) = decode? value := rfl

instance : LawfulCoded Config where
  decode_encode config := by
    refine Eq.trans (decode_record rfl (by decide)) ?_
    simp

instance : NeverNull Config := ⟨fun _ => nofun⟩

instance : LawfulCoded Request where
  decode_encode request := by
    refine Eq.trans (decode_record rfl (by decide)) ?_
    simp

end Microworlds.Proofs

import Microworlds.Request
import Mathlib.Tactic.Lemma

/-!
# The shape of states in JSON

How deep the form of a value is, and which numbers stand in it. Only search trees make it deep, and only
drawings and bodies have numbers that need not be finite.
-/

namespace Microworlds.Proofs

/-- Whether a value has at most the given number of levels, no flawed part, and only floating-point
numbers of a kind. -/
inductive Fits (ok : Float → Prop) : Nat → Json → Prop where
  | null {n : Nat} : Fits ok n .null
  | bool {n : Nat} (b : Bool) : Fits ok n (.bool b)
  | int {n : Nat} (i : Int) : Fits ok n (.int i)
  | float {n : Nat} (x : Float) (h : ok x) : Fits ok n (.float x)
  | str {n : Nat} (s : String) : Fits ok n (.str s)
  | arr {n : Nat} (items : List Json) (h : ∀ item ∈ items, Fits ok n item) : Fits ok (n + 1) (.arr items)
  | obj {n : Nat} (members : List (String × Json)) (h : ∀ member ∈ members, Fits ok n member.2) :
    Fits ok (n + 1) (.obj members)

variable {α β : Type} {ok : Float → Prop} {n : Nat}

lemma itemsLevels_le {items : List Json} (h : ∀ item ∈ items, item.levels ≤ n) :
    Json.itemsLevels items ≤ n := by
  induction items with
  | nil => exact Nat.zero_le n
  | cons item more ih =>
    rw [Json.itemsLevels, Nat.max_le]
    exact ⟨h item List.mem_cons_self, ih fun other hm => h other (List.mem_cons_of_mem item hm)⟩

lemma membersLevels_le {members : List (String × Json)}
    (h : ∀ member ∈ members, member.2.levels ≤ n) : Json.membersLevels members ≤ n := by
  induction members with
  | nil => exact Nat.zero_le n
  | cons member more ih =>
    rw [Json.membersLevels, Nat.max_le]
    exact ⟨h member List.mem_cons_self, ih fun other hm => h other (List.mem_cons_of_mem member hm)⟩

lemma levels_lt_of_item {item : Json} {items : List Json} (h : item ∈ items) :
    item.levels < (Json.arr items).levels := by
  rw [Json.levels, Nat.lt_succ_iff]
  induction items with
  | nil => cases h
  | cons first more ih =>
    rw [Json.itemsLevels]
    obtain rfl | h := List.mem_cons.1 h
    · exact Nat.le_max_left _ _
    · exact Nat.le_trans (ih h) (Nat.le_max_right _ _)

lemma levels_lt_of_mem {key : String} {value : Json} {members : List (String × Json)}
    (h : (key, value) ∈ members) : value.levels < (Json.obj members).levels := by
  rw [Json.levels, Nat.lt_succ_iff]
  induction members with
  | nil => cases h
  | cons member more ih =>
    rw [Json.membersLevels]
    obtain rfl | h := List.mem_cons.mp h
    · exact Nat.le_max_left _ _
    · exact Nat.le_trans (ih h) (Nat.le_max_right _ _)

lemma Fits.levels_le {value : Json} (h : Fits ok n value) : value.levels ≤ n := by
  induction h with
  | arr items h ih => exact Nat.succ_le_succ (itemsLevels_le ih)
  | obj members h ih => exact Nat.succ_le_succ (membersLevels_le ih)
  | _ => exact Nat.zero_le _

lemma soundItems_of_forall {items : List Json} (h : ∀ item ∈ items, item.sound = true) :
    Json.soundItems items = true := by
  induction items with
  | nil => rfl
  | cons item more ih =>
    rw [Json.soundItems, h item List.mem_cons_self, Bool.true_and]
    exact ih fun other hm => h other (List.mem_cons_of_mem item hm)

lemma soundMembers_of_forall {members : List (String × Json)}
    (h : ∀ member ∈ members, member.2.sound = true) : Json.soundMembers members = true := by
  induction members with
  | nil => rfl
  | cons member more ih =>
    rw [Json.soundMembers, h member List.mem_cons_self, Bool.true_and]
    exact ih fun other hm => h other (List.mem_cons_of_mem member hm)

lemma Fits.sound {value : Json} (h : Fits ok n value) : value.sound = true := by
  induction h with
  | arr items h ih => exact soundItems_of_forall ih
  | obj members h ih => exact soundMembers_of_forall ih
  | _ => rfl

/-! ### Plain values and values made of others -/

variable [Coded α] [Coded β]

@[simp] lemma fits_arr {items : List Json} :
    Fits ok (n + 1) (.arr items) ↔ ∀ item ∈ items, Fits ok n item := by
  constructor
  · rintro ⟨⟩
    assumption
  · exact .arr items

@[simp] lemma fits_obj {members : List (String × Json)} :
    Fits ok (n + 1) (.obj members) ↔ ∀ member ∈ members, Fits ok n member.2 := by
  constructor
  · rintro ⟨⟩
    assumption
  · exact .obj members

@[simp] lemma fits_null : Fits ok n .null := .null

@[simp] lemma fits_str (s : String) : Fits ok n (.str s) := .str s

@[simp] lemma fits_bool (b : Bool) : Fits ok n (encode b) := .bool b

@[simp] lemma fits_string (s : String) : Fits ok n (encode s) := .str s

@[simp] lemma fits_nat (i : Nat) : Fits ok n (encode i) := .int i

@[simp] lemma fits_int64 (i : Int64) : Fits ok n (encode i) := .int i.toInt

@[simp] lemma fits_uint64 (i : UInt64) : Fits ok n (encode i) := .int i.toNat

@[simp] lemma fits_uint32 (i : UInt32) : Fits ok n (encode i) := .int i.toNat

@[simp] lemma fits_float {x : Float} : Fits ok n (encode x) ↔ ok x := by
  constructor
  · rintro ⟨⟩
    assumption
  · exact .float x

@[simp] lemma fits_option {o : Option α} :
    Fits ok n (encode o) ↔ ∀ a, o = some a → Fits ok n (encode a) := by
  cases o with
  | none => simpa using .null
  | some a => simpa using .rfl

@[simp] lemma fits_list {items : List α} :
    Fits ok (n + 1) (encode items) ↔ ∀ a ∈ items, Fits ok n (encode a) := by
  change Fits ok (n + 1) (.arr (items.map encode)) ↔ _
  simp

@[simp] lemma fits_pair {pair : α × β} :
    Fits ok (n + 1) (encode pair) ↔ Fits ok n (encode pair.1) ∧ Fits ok n (encode pair.2) := by
  change Fits ok (n + 1) (.arr [encode pair.1, encode pair.2]) ↔ _
  simp

@[simp] lemma fits_table {table : Table α} :
    Fits ok (n + 1) (encode table) ↔ ∀ entry ∈ table.entries, Fits ok n (encode entry.2) := by
  change Fits ok (n + 1) (.obj (table.entries.map fun entry => (entry.1, encode entry.2))) ↔ _
  rw [fits_obj, List.forall_mem_map]

/-! ### Records without floating-point numbers -/

@[simp] lemma fits_value (value : Programming.Value) : Fits ok n (encode value) := by
  cases value with
  | int i => exact .int i.toInt
  | text s => exact .str s

lemma fits_programming (state : Programming.State) : Fits ok (n + 2) (encode state) := by
  change Fits ok (n + 2) (.obj _)
  simp

lemma fits_algorithm (state : Algorithm.State) : Fits ok (n + 3) (encode state) := by
  change Fits ok (n + 3) (.obj _)
  simp

lemma fits_hash (state : Hash.State) : Fits ok (n + 1) (encode state) := by
  change Fits ok (n + 1) (.obj _)
  simp

@[simp] lemma fits_position (cell : Game.Position) : Fits ok (n + 1) (encode cell) := by
  change Fits ok (n + 1) (.obj _)
  simp

lemma fits_game (state : Game.State) : Fits ok (n + 3) (encode state) := by
  change Fits ok (n + 3) (.obj _)
  simp

@[simp] lemma fits_building (building : Strategy.Building) : Fits ok (n + 1) (encode building) := by
  change Fits ok (n + 1) (.obj _)
  simp

@[simp] lemma fits_troop (troop : Strategy.Troop) : Fits ok (n + 1) (encode troop) := by
  change Fits ok (n + 1) (.obj _)
  simp

@[simp] lemma fits_plan (plan : Strategy.Plan) : Fits ok (n + 1) (encode plan) := by
  change Fits ok (n + 1) (.obj _)
  simp

lemma fits_strategy (state : Strategy.State) : Fits ok (n + 3) (encode state) := by
  change Fits ok (n + 3) (.obj _)
  simp

@[simp] lemma fits_colonist (colonist : Colony.Colonist) : Fits ok (n + 1) (encode colonist) := by
  change Fits ok (n + 1) (.obj _)
  simp

@[simp] lemma fits_structure (s : Colony.Structure) : Fits ok (n + 1) (encode s) := by
  change Fits ok (n + 1) (.obj _)
  simp

@[simp] lemma fits_weather (weather : Colony.Weather) : Fits ok n (encode weather) :=
  .str weather.name

lemma fits_colony (state : Colony.State) : Fits ok (n + 3) (encode state) := by
  change Fits ok (n + 3) (.obj _)
  simp

@[simp] lemma fits_mode (mode : AiChat.Mode) : Fits ok n (encode mode) := .str mode.name

@[simp] lemma fits_role (role : AiChat.Role) : Fits ok n (encode role) := by
  cases role <;> exact .str _

@[simp] lemma fits_message (message : AiChat.Message) : Fits ok (n + 1) (encode message) := by
  change Fits ok (n + 1) (.obj _)
  simp

@[simp] lemma fits_quality (quality : AiChat.Quality) : Fits ok (n + 1) (encode quality) := by
  change Fits ok (n + 1) (.obj _)
  simp

lemma fits_aiChat (state : AiChat.State) : Fits ok (n + 3) (encode state) := by
  change Fits ok (n + 3) (.obj _)
  simp

@[simp] lemma fits_graph (graph : DataStructure.Graph) : Fits ok (n + 3) (encode graph) := by
  change Fits ok (n + 3) (.obj _)
  simp

/-! ### Drawings, bodies and settings -/

@[simp] lemma fits_range (range : Math.Range) : Fits ok (n + 1) (encode range) := by
  change Fits ok (n + 1) (.obj _)
  simp

/-- Whether the numbers of a shape are of a kind. -/
def ShapeNumbers (ok : Float → Prop) : Math.Shape → Prop
  | .circle x y radius => ok x ∧ ok y ∧ ok radius
  | .rectangle x y width height => ok x ∧ ok y ∧ ok width ∧ ok height

/-- Whether the numbers of a drawing are of a kind. -/
structure MathNumbers (ok : Float → Prop) (state : Math.State) : Prop where
  plots : ∀ plot ∈ state.plots, ∀ point ∈ plot.points, ok point.1 ∧ ok point.2
  shapes : ∀ shape ∈ state.shapes, ShapeNumbers ok shape
  points : ∀ point ∈ state.points, ok point.x ∧ ok point.y
  lastResult : ∀ x, state.lastResult = some x → ok x

/-- Whether the numbers of a body are of a kind. -/
def BodyNumbers (ok : Float → Prop) (body : Physics.Body) : Prop :=
  ok body.x ∧ ok body.y ∧ ok body.vx ∧ ok body.vy ∧ ok body.mass ∧ ok body.radius

/-- Whether the numbers of a box are of a kind. -/
structure PhysicsNumbers (ok : Float → Prop) (state : Physics.State) : Prop where
  gravity : ok state.gravity
  bodies : ∀ body ∈ state.bodies, BodyNumbers ok body

@[simp] lemma fits_plot {plot : Math.Plot} :
    Fits ok (n + 3) (encode plot) ↔ ∀ point ∈ plot.points, ok point.1 ∧ ok point.2 := by
  change Fits ok (n + 3) (.obj _) ↔ _
  simp

@[simp] lemma fits_shape {shape : Math.Shape} :
    Fits ok (n + 1) (encode shape) ↔ ShapeNumbers ok shape := by
  cases shape with
  | circle x y radius =>
    change Fits ok (n + 1) (.obj _) ↔ _
    simp [ShapeNumbers]
  | rectangle x y width height =>
    change Fits ok (n + 1) (.obj _) ↔ _
    simp [ShapeNumbers]

@[simp] lemma fits_labeledPoint {point : Math.LabeledPoint} :
    Fits ok (n + 1) (encode point) ↔ ok point.x ∧ ok point.y := by
  change Fits ok (n + 1) (.obj _) ↔ _
  simp

lemma fits_math {state : Math.State} (h : MathNumbers ok state) :
    Fits ok (n + 5) (encode state) := by
  change Fits ok (n + 5) (.obj _)
  simpa [-Prod.forall] using ⟨h.plots, h.shapes, h.points, h.lastResult⟩

@[simp] lemma fits_body {body : Physics.Body} :
    Fits ok (n + 1) (encode body) ↔ BodyNumbers ok body := by
  change Fits ok (n + 1) (.obj _) ↔ _
  simp [BodyNumbers]

lemma fits_physics {state : Physics.State} (h : PhysicsNumbers ok state) :
    Fits ok (n + 3) (encode state) := by
  change Fits ok (n + 3) (.obj _)
  simpa using ⟨h.gravity, h.bodies⟩

@[simp] lemma fits_config {config : Config} :
    Fits ok (n + 1) (encode config) ↔ ok config.replaySpeed := by
  change Fits ok (n + 1) (.obj _) ↔ _
  simp

/-! ### Data structures -/

def height : DataStructure.Tree → Nat
  | .empty => 0
  | .node _ left right => max (height left) (height right) + 1

lemma levels_toJson (tree : DataStructure.Tree) : tree.toJson.levels = height tree := by
  induction tree with
  | empty => rfl
  | node value left right hleft hright =>
    have hvalue : (encode value).levels = 0 := rfl
    simp [DataStructure.Tree.toJson, Json.levels, Json.membersLevels, height, hvalue, hleft, hright]

lemma fits_tree {tree : DataStructure.Tree} (h : height tree ≤ n) : Fits ok n (encode tree) := by
  induction tree generalizing n with
  | empty => exact .null
  | node value left right hleft hright =>
    cases n with
    | zero => simp [height] at h
    | succ n =>
      rw [height, Nat.succ_le_succ_iff, Nat.max_le] at h
      change Fits ok (n + 1) (.obj _)
      simpa using ⟨hleft h.1, hright h.2⟩

lemma fits_dataStructure {state : DataStructure.State} (h : height state.tree ≤ n + 3) :
    Fits ok (n + 4) (encode state) := by
  change Fits ok (n + 4) (.obj _)
  simpa using fits_tree h

/-! ### States with their scenarios -/

/-- Whether the floating-point numbers of a state are of a kind. -/
def Numbers (ok : Float → Prop) : State → Prop
  | .math state => MathNumbers ok state
  | .physics state => PhysicsNumbers ok state
  | _ => True

/-- The number of levels of the tree of a state, if it has one. -/
def treeHeight : State → Nat
  | .dataStructure state => height state.tree
  | _ => 0

lemma encode_state (state : State) :
    ∃ members, state.body = .obj members ∧ "scenario" ∉ members.map (·.1) ∧
      encode state = .obj (("scenario", .str state.scenario.name) :: members) := by
  cases state <;> exact ⟨_, rfl, by simp, rfl⟩

lemma fits_body_of_numbers {state : State} (hnumbers : Numbers ok state)
    (hheight : treeHeight state ≤ n + 4) : Fits ok (n + 5) state.body := by
  cases state with
  | programming state => exact fits_programming state
  | algorithm state => exact fits_algorithm state
  | dataStructure state => exact fits_dataStructure hheight
  | math state => exact fits_math hnumbers
  | physics state => exact fits_physics hnumbers
  | game state => exact fits_game state
  | hash state => exact fits_hash state
  | strategy state => exact fits_strategy state
  | aiChat state => exact fits_aiChat state
  | colony state => exact fits_colony state

lemma fits_state {state : State} (hnumbers : Numbers ok state)
    (hheight : treeHeight state ≤ n + 4) : Fits ok (n + 5) (encode state) := by
  obtain ⟨members, hbody, -, hstate⟩ := encode_state state
  have hmembers := fits_body_of_numbers hnumbers hheight
  rw [hbody, fits_obj] at hmembers
  rw [hstate, fits_obj]
  intro member hmem
  obtain rfl | hmem := List.mem_cons.mp hmem
  · exact .str _
  · exact hmembers member hmem

end Microworlds.Proofs

import Microworlds.Proofs.Codec.Tolerance
import Microworlds.Proofs.Host.Transport
import Mathlib.Logic.Relation

/-!
# States survive their form in JSON

A state with finite numbers is read back from what is written for it. What is read of an object
belongs to the scenario that its tag names, and it stays the same if members that count for
nothing are added or left out, in the object and in every record inside of it.
-/

namespace Microworlds.Proofs

/-! ### Records inside of states -/

instance : Tolerant DataStructure.Graph where
  Step := RecordStep [.required "nodes" (List String), .required "edges" (List (String × String))]
  decode_step := record_step (by decide) (fun _ => rfl) fun found again h => by
    obtain ⟨hnodes, hedges, -⟩ := by simpa only [List.forall_mem_cons] using h
    exact hnodes.field?.bind fun _ => hedges.field?.bind fun _ => .refl _

instance : Tolerant Math.Range where
  Step := RecordStep [.required "min" Int64, .required "max" Int64]
  decode_step := record_step (by decide) (fun _ => rfl) fun found again h => by
    obtain ⟨hmin, hmax, -⟩ := by simpa only [List.forall_mem_cons] using h
    exact hmin.field?.bind fun _ => hmax.field?.bind fun _ => .refl _

instance : Tolerant Math.Plot where
  Step := RecordStep [.required "expression" String, .required "points" (List (Float × Float))]
  decode_step := record_step (by decide) (fun _ => rfl) fun found again h => by
    obtain ⟨hexpression, hpoints, -⟩ := by simpa only [List.forall_mem_cons] using h
    exact hexpression.field?.bind fun _ => hpoints.field?.bind fun _ => .refl _

instance : Tolerant Math.LabeledPoint where
  Step := RecordStep [.required "x" Float, .required "y" Float, .optionally "label" String]
  decode_step := record_step (by decide) (fun _ => rfl) fun found again h => by
    obtain ⟨hx, hy, hlabel, -⟩ := by simpa only [List.forall_mem_cons] using h
    exact hx.field?.bind fun _ => hy.field?.bind fun _ =>
      hlabel.optionalField?.bind fun _ => .refl _

instance : Tolerant Physics.Body where
  Step := RecordStep [.required "name" String, .required "x" Float, .required "y" Float,
    .required "vx" Float, .required "vy" Float, .required "mass" Float, .required "radius" Float]
  decode_step := record_step (by decide) (fun _ => rfl) fun found again h => by
    obtain ⟨hname, hx, hy, hvx, hvy, hmass, hradius, -⟩ := by
      simpa only [List.forall_mem_cons] using h
    exact hname.field?.bind fun _ => hx.field?.bind fun _ => hy.field?.bind fun _ =>
      hvx.field?.bind fun _ => hvy.field?.bind fun _ => hmass.field?.bind fun _ =>
        hradius.field?.bind fun _ => .refl _

instance : Tolerant Game.Position where
  Step := RecordStep [.required "x" Int64, .required "y" Int64]
  decode_step := record_step (by decide) (fun _ => rfl) fun found again h => by
    obtain ⟨hx, hy, -⟩ := by simpa only [List.forall_mem_cons] using h
    exact hx.field?.bind fun _ => hy.field?.bind fun _ => .refl _

instance : Tolerant Strategy.Building where
  Step := RecordStep [.required "kind" String, .required "x" Int64, .required "y" Int64]
  decode_step := record_step (by decide) (fun _ => rfl) fun found again h => by
    obtain ⟨hkind, hx, hy, -⟩ := by simpa only [List.forall_mem_cons] using h
    exact hkind.field?.bind fun _ => hx.field?.bind fun _ => hy.field?.bind fun _ => .refl _

instance : Tolerant Strategy.Troop where
  Step := RecordStep [.required "kind" String, .required "x" Int64, .required "y" Int64,
    .required "health" UInt32, .required "attack" UInt32]
  decode_step := record_step (by decide) (fun _ => rfl) fun found again h => by
    obtain ⟨hkind, hx, hy, hhealth, hattack, -⟩ := by simpa only [List.forall_mem_cons] using h
    exact hkind.field?.bind fun _ => hx.field?.bind fun _ => hy.field?.bind fun _ =>
      hhealth.field?.bind fun _ => hattack.field?.bind fun _ => .refl _

instance : Tolerant Strategy.Plan where
  Step := RecordStep [.required "name" String, .optionally "goal" String]
  decode_step := record_step (by decide) (fun _ => rfl) fun found again h => by
    obtain ⟨hname, hgoal, -⟩ := by simpa only [List.forall_mem_cons] using h
    exact hname.field?.bind fun _ => hgoal.optionalField?.bind fun _ => .refl _

instance : Tolerant Colony.Colonist where
  Step := RecordStep [.required "name" String, .required "x" Int64, .required "y" Int64,
    .required "hp" UInt32, .required "max_hp" UInt32, .required "downed" Bool]
  decode_step := record_step (by decide) (fun _ => rfl) fun found again h => by
    obtain ⟨hname, hx, hy, hhp, hmaxHp, hdowned, -⟩ := by simpa only [List.forall_mem_cons] using h
    exact hname.field?.bind fun _ => hx.field?.bind fun _ => hy.field?.bind fun _ =>
      hhp.field?.bind fun _ => hmaxHp.field?.bind fun _ => hdowned.field?.bind fun _ => .refl _

instance : Tolerant Colony.Structure where
  Step := RecordStep [.required "kind" String, .required "x" Int64, .required "y" Int64,
    .required "hp" UInt32, .required "max_hp" UInt32]
  decode_step := record_step (by decide) (fun _ => rfl) fun found again h => by
    obtain ⟨hkind, hx, hy, hhp, hmaxHp, -⟩ := by simpa only [List.forall_mem_cons] using h
    exact hkind.field?.bind fun _ => hx.field?.bind fun _ => hy.field?.bind fun _ =>
      hhp.field?.bind fun _ => hmaxHp.field?.bind fun _ => .refl _

instance : Tolerant AiChat.Message where
  Step := RecordStep [.required "role" AiChat.Role, .required "content" String]
  decode_step := record_step (by decide) (fun _ => rfl) fun found again h => by
    obtain ⟨hrole, hcontent, -⟩ := by simpa only [List.forall_mem_cons] using h
    exact hrole.field?.bind fun _ => hcontent.field?.bind fun _ => .refl _

instance : Tolerant AiChat.Quality where
  Step := RecordStep [.required "clarity" UInt32, .required "specificity" UInt32,
    .required "context" UInt32]
  decode_step := record_step (by decide) (fun _ => rfl) fun found again h => by
    obtain ⟨hclarity, hspecificity, hcontext, -⟩ := by simpa only [List.forall_mem_cons] using h
    exact hclarity.field?.bind fun _ => hspecificity.field?.bind fun _ =>
      hcontext.field?.bind fun _ => .refl _

/-! ### Search trees -/

/-- The fields of a node, in whose subtrees there may be such changes. -/
def nodeFields (step : Json → Json → Prop) : List Field :=
  [.required "value" Int64, ⟨"left", true, step⟩, ⟨"right", true, step⟩]

/-- One change of a node or of one that is less than the given number of levels below. -/
def TreeStep : Nat → Json → Json → Prop
  | 0 => fun _ _ => False
  | levels + 1 => RecordStep (nodeFields (TreeStep levels))

/-- The tree in a field, which may be missing. -/
def treeIn? (read : Json → Option DataStructure.Tree) : Option Json → Option DataStructure.Tree
  | some value => read value
  | none => some .empty

lemma Field.Changed.treeIn? {name : String} {step : Json → Json → Prop} {found again : Option Json}
    {read : Json → Option DataStructure.Tree} (h : (⟨name, true, step⟩ : Field).Changed found again)
    (hnull : read .null = some .empty)
    (hstep : ∀ value changed, step value changed → Preserved (read value) (read changed)) :
    Preserved (treeIn? read found) (treeIn? read again) := by
  obtain rfl | ⟨-, rfl, rfl⟩ | ⟨value, changed, h, rfl, rfl⟩ := h
  · exact .refl _
  · intro tree htree
    exact hnull.symm.trans htree
  · exact hstep value changed h

lemma ofJson?_succ (bound : Nat) (value : Json) (hvalue : value ≠ .null) :
    DataStructure.Tree.ofJson? (bound + 1) value =
      (value.openFields? 3 ["value", "left", "right"]).bind fun
        | [value, left, right] => do
          let left ← treeIn? (DataStructure.Tree.ofJson? bound) left
          let right ← treeIn? (DataStructure.Tree.ofJson? bound) right
          return .node (← field? value) left right
        | _ => none := by
  rw [DataStructure.Tree.ofJson?.eq_3 _ _ hvalue]
  refine congrArg (Option.bind _) (funext fun found => ?_)
  obtain _ | ⟨_, _ | ⟨left, _ | ⟨right, _ | ⟨_, _⟩⟩⟩⟩ := found
  case cons.cons.cons.nil => cases left <;> cases right <;> rfl
  all_goals rfl

lemma ofJson?_null (bound : Nat) : DataStructure.Tree.ofJson? bound .null = some .empty := by
  cases bound <;> rfl

lemma ofJson?_step {levels bound : Nat} {value changed : Json} (h : TreeStep levels value changed) :
    Preserved (DataStructure.Tree.ofJson? bound value)
      (DataStructure.Tree.ofJson? bound changed) := by
  induction levels generalizing bound value changed with
  | zero => cases h
  | succ levels ih =>
    cases bound with
    | zero =>
      obtain ⟨h⟩ := h
      exact .refl none
    | succ bound =>
      have hnames : ((nodeFields (TreeStep levels)).map (·.name)) = ["value", "left", "right"] :=
        rfl
      refine record_step (hnames ▸ by decide)
        (fun members => ofJson?_succ bound (.obj members) nofun) (fun found again hfields => ?_) h
      obtain ⟨hvalue, hleft, hright, -⟩ := by
        simpa only [nodeFields, List.forall_mem_cons] using hfields
      exact (hleft.treeIn? (ofJson?_null bound) fun _ _ => ih).bind fun _ =>
        (hright.treeIn? (ofJson?_null bound) fun _ _ => ih).bind fun _ =>
          hvalue.field?.bind fun _ => .refl _

lemma levels_pos_of_openFields? {least : Nat} {names : List String} {value : Json}
    {list : List (Option Json)} (h : value.openFields? least names = some list) :
    0 < value.levels := by
  cases value with
  | obj members => exact Nat.succ_pos _
  | arr items => exact Nat.succ_pos _
  | _ => cases h

lemma levels_lt_of_field {least : Nat} {names : List String} {value found : Json}
    {list : List (Option Json)} (h : value.openFields? least names = some list)
    (hfound : some found ∈ list) : found.levels < value.levels := by
  cases value with
  | obj members =>
    rw [Json.openFields?] at h
    split at h
    · cases h
    · cases h
      obtain ⟨name, -, hname⟩ := List.mem_map.1 hfound
      obtain ⟨member, hmember, rfl⟩ := Option.map_eq_some_iff.1 hname
      exact levels_lt_of_mem (List.mem_reverse.1 (List.mem_of_find?_eq_some hmember))
  | arr items =>
    rw [Json.openFields?] at h
    split at h
    · cases h
      obtain hitem | hmissing := List.mem_append.1 hfound
      · obtain ⟨item, hitem, hsame⟩ := List.mem_map.1 hitem
        cases hsame
        exact levels_lt_of_item hitem
      · cases List.eq_of_mem_replicate hmissing
    · cases h
  | _ => cases h

lemma treeIn?_preserved {read again : Json → Option DataStructure.Tree} {found : Option Json}
    (h : ∀ value, found = some value → Preserved (read value) (again value)) :
    Preserved (treeIn? read found) (treeIn? again found) := by
  cases found with
  | none => exact .refl _
  | some value => exact h value rfl

lemma ofJson?_of_levels_le {bound enough : Nat} {value : Json} (henough : value.levels ≤ enough) :
    Preserved (DataStructure.Tree.ofJson? bound value)
      (DataStructure.Tree.ofJson? enough value) := by
  induction bound generalizing value enough with
  | zero =>
    cases value with
    | null => exact (ofJson?_null enough).symm ▸ .refl _
    | _ => exact nofun
  | succ bound ih =>
    by_cases hnull : value = .null
    · subst hnull
      rw [ofJson?_null, ofJson?_null]
      exact .refl _
    · intro tree htree
      rw [ofJson?_succ bound value hnull] at htree
      obtain ⟨list, hopen, htree⟩ := Option.bind_eq_some_iff.1 htree
      have hfields : ∀ found, some found ∈ list → found.levels < value.levels :=
        fun found hfound => levels_lt_of_field hopen hfound
      cases enough with
      | zero => exact absurd (levels_pos_of_openFields? hopen) (Nat.not_lt.2 henough)
      | succ enough =>
        rw [ofJson?_succ enough value hnull, hopen, Option.bind_some]
        split at htree
        · next found left right =>
          have hchild : ∀ child, some child ∈ [found, left, right] → Preserved
              (DataStructure.Tree.ofJson? bound child) (DataStructure.Tree.ofJson? enough child) :=
            fun child hmem => ih (by have := hfields child hmem; omega)
          refine Preserved.bind (treeIn?_preserved fun child h => hchild child ?_) (fun _ =>
            Preserved.bind (treeIn?_preserved fun child h => hchild child ?_) fun _ => .refl _)
              tree htree
          · simp [h]
          · simp [h]
        · cases htree

instance : Tolerant DataStructure.Tree where
  Step value changed := ∃ levels, TreeStep levels value changed
  decode_step := by
    rintro value changed ⟨levels, h⟩ tree htree
    exact ofJson?_of_levels_le (Nat.le_refl _) tree (ofJson?_step h tree htree)

/-! ### Shapes -/

def shapeFields (shape : Json) : List Field :=
  match shape.choice? ["circle", "rectangle"] with
  | some "circle" => [.required "x" Float, .required "y" Float, .required "radius" Float]
  | some "rectangle" =>
    [.required "x" Float, .required "y" Float, .required "width" Float, .required "height" Float]
  | _ => []

lemma shapeFields_ne_tag {shape : Json} {field : Field} (h : field ∈ shapeFields shape) :
    field.name ≠ "shape" := by
  suffices hnames : ∀ name ∈ (shapeFields shape).map (·.name), name ≠ "shape" from
    hnames _ (List.mem_map_of_mem h)
  unfold shapeFields
  split <;> decide

def circle? (body : Json) : Option Math.Shape := do
  let [x, y, radius] ← body.fields? ["x", "y", "radius"] | none
  return .circle (← field? x) (← field? y) (← field? radius)

def rectangle? (body : Json) : Option Math.Shape := do
  let [x, y, width, height] ← body.fields? ["x", "y", "width", "height"] | none
  return .rectangle (← field? x) (← field? y) (← field? width) (← field? height)

instance : Tolerant Math.Shape where
  Step := TaggedStep "shape" shapeFields
  decode_step := tagged_step (fun _ _ => shapeFields_ne_tag) fun shape body changed h => by
    unfold shapeFields at h
    split at h
    · next hshape =>
      have hcircle : Preserved (circle? body) (circle? changed) := by
        refine record_step (by decide) (fun _ => rfl) (fun found again h => ?_) h
        obtain ⟨hx, hy, hradius, -⟩ := by simpa only [List.forall_mem_cons] using h
        exact hx.field?.bind fun _ => hy.field?.bind fun _ => hradius.field?.bind fun _ => .refl _
      dsimp only
      rw [hshape]
      exact hcircle
    · next hshape =>
      have hrectangle : Preserved (rectangle? body) (rectangle? changed) := by
        refine record_step (by decide) (fun _ => rfl) (fun found again h => ?_) h
        obtain ⟨hx, hy, hwidth, hheight, -⟩ := by simpa only [List.forall_mem_cons] using h
        exact hx.field?.bind fun _ => hy.field?.bind fun _ => hwidth.field?.bind fun _ =>
          hheight.field?.bind fun _ => .refl _
      dsimp only
      rw [hshape]
      exact hrectangle
    · next hcircle hrectangle =>
      intro a ha
      obtain ⟨word, hword, ha⟩ := Option.bind_eq_some_iff.1 ha
      split at ha
      · exact absurd hword hcircle
      · exact absurd hword hrectangle
      · cases ha

/-! ### States -/

/-- The fields of the states of a scenario. -/
def stateFields : Scenario → List Field
  | .programming => [.required "variables" (Table Programming.Value),
      .required "output" (List String), .optionally "last_condition" Bool]
  | .algorithm => [.required "arrays" (Table (List Int64)), .required "output" (List String)]
  | .dataStructure => [.required "stack" (List String), .required "queue" (List String),
      ⟨"tree", true, Tolerant.Step DataStructure.Tree⟩, .required "heap" (List Int64),
      .required "graph" DataStructure.Graph, .required "output" (List String)]
  | .math => [.required "range" Math.Range, .required "plots" (List Math.Plot),
      .required "shapes" (List Math.Shape), .required "points" (List Math.LabeledPoint),
      .optionally "last_result" Float]
  | .physics => [.required "gravity" Float, .required "bodies" (List Physics.Body),
      .required "running" Bool, .required "frame" UInt64]
  | .game => [.optionally "player" Game.Position, .required "coins" (List Game.Position),
      .required "score" UInt64]
  | .hash => [.optionally "param" String, .required "input" String, .optionally "loop_var" String,
      .optionally "sum" UInt64, .required "modulus" UInt32, .optionally "result" UInt64]
  | .strategy => [.required "resources" Stock, .required "buildings" (List Strategy.Building),
      .required "units" (List Strategy.Troop), .optionally "plan" Strategy.Plan,
      .required "turn" UInt32]
  | .aiChat => [.required "mode" AiChat.Mode, .required "history" (List AiChat.Message),
      .optionally "quality" AiChat.Quality, .required "suggestions" (List String),
      .required "refined" Bool, .required "seed" UInt64]
  | .colony => [.required "resources" Stock, .required "colonists" (List Colony.Colonist),
      .optionally "selected" Nat, .required "structures" (List Colony.Structure),
      .required "auto_mode" Bool, .required "paused" Bool, .required "weather" Colony.Weather,
      .required "temperature" Int64]

lemma decode_programming_step {value changed : Json}
    (h : RecordStep (stateFields .programming) value changed) :
    Preserved (decode? (α := Programming.State) value) (decode? changed) := by
  refine record_step (by decide) (fun _ => rfl) (fun found again h => ?_) h
  obtain ⟨hvariables, houtput, hcondition, -⟩ := by
    simpa only [stateFields, List.forall_mem_cons] using h
  exact hvariables.field?.bind fun _ => houtput.field?.bind fun _ =>
    hcondition.optionalField?.bind fun _ => .refl _

lemma decode_algorithm_step {value changed : Json}
    (h : RecordStep (stateFields .algorithm) value changed) :
    Preserved (decode? (α := Algorithm.State) value) (decode? changed) := by
  refine record_step (by decide) (fun _ => rfl) (fun found again h => ?_) h
  obtain ⟨harrays, houtput, -⟩ := by simpa only [stateFields, List.forall_mem_cons] using h
  exact harrays.field?.bind fun _ => houtput.field?.bind fun _ => .refl _

lemma decode_dataStructure_obj (members : List (String × Json)) :
    decode? (α := DataStructure.State) (.obj members) =
      ((Json.obj members).openFields? 6 ["stack", "queue", "tree", "heap", "graph", "output"]).bind
        fun
        | [stack, queue, tree, heap, graph, output] => do
          let tree ← treeIn? decode? tree
          return ⟨← field? stack, ← field? queue, tree, ← field? heap, ← field? graph,
            ← field? output⟩
        | _ => none := by
  refine congrArg (Option.bind _) (funext fun found => ?_)
  match found with
  | [_, _, none, _, _, _] | [_, _, some _, _, _, _] => rfl
  | [] | [_] | [_, _] | [_, _, _] | [_, _, _, _] | [_, _, _, _, _] |
    _ :: _ :: _ :: _ :: _ :: _ :: _ :: _ => rfl

lemma decode_dataStructure_step {value changed : Json}
    (h : RecordStep (stateFields .dataStructure) value changed) :
    Preserved (decode? (α := DataStructure.State) value) (decode? changed) := by
  refine record_step (by decide) decode_dataStructure_obj (fun found again h => ?_) h
  obtain ⟨hstack, hqueue, htree, hheap, hgraph, houtput, -⟩ := by
    simpa only [stateFields, List.forall_mem_cons] using h
  exact (htree.treeIn? rfl fun _ _ => decode_step).bind fun _ => hstack.field?.bind fun _ =>
    hqueue.field?.bind fun _ => hheap.field?.bind fun _ => hgraph.field?.bind fun _ =>
      houtput.field?.bind fun _ => .refl _

lemma decode_math_step {value changed : Json} (h : RecordStep (stateFields .math) value changed) :
    Preserved (decode? (α := Math.State) value) (decode? changed) := by
  refine record_step (by decide) (fun _ => rfl) (fun found again h => ?_) h
  obtain ⟨hrange, hplots, hshapes, hpoints, hresult, -⟩ := by
    simpa only [stateFields, List.forall_mem_cons] using h
  exact hrange.field?.bind fun _ => hplots.field?.bind fun _ => hshapes.field?.bind fun _ =>
    hpoints.field?.bind fun _ => hresult.optionalField?.bind fun _ => .refl _

lemma decode_physics_step {value changed : Json}
    (h : RecordStep (stateFields .physics) value changed) :
    Preserved (decode? (α := Physics.State) value) (decode? changed) := by
  refine record_step (by decide) (fun _ => rfl) (fun found again h => ?_) h
  obtain ⟨hgravity, hbodies, hrunning, hframe, -⟩ := by
    simpa only [stateFields, List.forall_mem_cons] using h
  exact hgravity.field?.bind fun _ => hbodies.field?.bind fun _ => hrunning.field?.bind fun _ =>
    hframe.field?.bind fun _ => .refl _

lemma decode_game_step {value changed : Json} (h : RecordStep (stateFields .game) value changed) :
    Preserved (decode? (α := Game.State) value) (decode? changed) := by
  refine record_step (by decide) (fun _ => rfl) (fun found again h => ?_) h
  obtain ⟨hplayer, hcoins, hscore, -⟩ := by simpa only [stateFields, List.forall_mem_cons] using h
  exact hplayer.optionalField?.bind fun _ => hcoins.field?.bind fun _ =>
    hscore.field?.bind fun _ => .refl _

lemma decode_hash_step {value changed : Json} (h : RecordStep (stateFields .hash) value changed) :
    Preserved (decode? (α := Hash.State) value) (decode? changed) := by
  refine record_step (by decide) (fun _ => rfl) (fun found again h => ?_) h
  obtain ⟨hparam, hinput, hloopVar, hsum, hmodulus, hresult, -⟩ := by
    simpa only [stateFields, List.forall_mem_cons] using h
  exact hparam.optionalField?.bind fun _ => hinput.field?.bind fun _ =>
    hloopVar.optionalField?.bind fun _ => hsum.optionalField?.bind fun _ =>
      hmodulus.field?.bind fun _ => hresult.optionalField?.bind fun _ => .refl _

lemma decode_strategy_step {value changed : Json}
    (h : RecordStep (stateFields .strategy) value changed) :
    Preserved (decode? (α := Strategy.State) value) (decode? changed) := by
  refine record_step (by decide) (fun _ => rfl) (fun found again h => ?_) h
  obtain ⟨hresources, hbuildings, hunits, hplan, hturn, -⟩ := by
    simpa only [stateFields, List.forall_mem_cons] using h
  exact hresources.field?.bind fun _ => hbuildings.field?.bind fun _ => hunits.field?.bind fun _ =>
    hplan.optionalField?.bind fun _ => hturn.field?.bind fun _ => .refl _

lemma decode_aiChat_step {value changed : Json}
    (h : RecordStep (stateFields .aiChat) value changed) :
    Preserved (decode? (α := AiChat.State) value) (decode? changed) := by
  refine record_step (by decide) (fun _ => rfl) (fun found again h => ?_) h
  obtain ⟨hmode, hhistory, hquality, hsuggestions, hrefined, hseed, -⟩ := by
    simpa only [stateFields, List.forall_mem_cons] using h
  exact hmode.field?.bind fun _ => hhistory.field?.bind fun _ =>
    hquality.optionalField?.bind fun _ => hsuggestions.field?.bind fun _ =>
      hrefined.field?.bind fun _ => hseed.field?.bind fun _ => .refl _

lemma decode_colony_step {value changed : Json}
    (h : RecordStep (stateFields .colony) value changed) :
    Preserved (decode? (α := Colony.State) value) (decode? changed) := by
  refine record_step (by decide) (fun _ => rfl) (fun found again h => ?_) h
  obtain ⟨hresources, hcolonists, hselected, hstructures, hauto, hpaused, hweather,
    htemperature, -⟩ := by simpa only [stateFields, List.forall_mem_cons] using h
  exact hresources.field?.bind fun _ => hcolonists.field?.bind fun _ =>
    hselected.optionalField?.bind fun _ => hstructures.field?.bind fun _ =>
      hauto.field?.bind fun _ => hpaused.field?.bind fun _ => hweather.field?.bind fun _ =>
        htemperature.field?.bind fun _ => .refl _

lemma ofBody?_step {scenario : Scenario} {value changed : Json}
    (h : RecordStep (stateFields scenario) value changed) :
    Preserved (State.ofBody? value scenario) (State.ofBody? changed scenario) := by
  cases scenario with
  | programming => exact (decode_programming_step h).map _
  | algorithm => exact (decode_algorithm_step h).map _
  | dataStructure => exact (decode_dataStructure_step h).map _
  | math => exact (decode_math_step h).map _
  | physics => exact (decode_physics_step h).map _
  | game => exact (decode_game_step h).map _
  | hash => exact (decode_hash_step h).map _
  | strategy => exact (decode_strategy_step h).map _
  | aiChat => exact (decode_aiChat_step h).map _
  | colony => exact (decode_colony_step h).map _

/-- The fields of a state behind the given tag. -/
def taggedFields : Json → List Field
  | .str name => ((Scenario.named? name).map stateFields).getD []
  | _ => []

lemma taggedFields_ne_tag {tag : Json} {field : Field} (h : field ∈ taggedFields tag) :
    field.name ≠ "scenario" := by
  suffices hnames : ∀ scenario, ∀ name ∈ (stateFields scenario).map (·.name), name ≠ "scenario" by
    unfold taggedFields at h
    split at h
    · next name =>
      cases hscenario : Scenario.named? name with
      | none => rw [hscenario] at h; cases h
      | some scenario =>
        rw [hscenario] at h
        exact hnames scenario _ (List.mem_map_of_mem h)
    · cases h
  intro scenario
  cases scenario <;> decide

/-- One change of a state with its scenario: another member with an unknown key, or one less with
`null` for an optional field, in the object or in a record inside of it. -/
structure StateStep (value changed : Json) : Prop where
  step : TaggedStep "scenario" taggedFields value changed
  sound : changed.sound = true

lemma decode_state_of_sound {value : Json} (h : value.sound = true) :
    decode? (α := State) value = (value.tagged? "scenario").bind fun tagged =>
      (decode? tagged.1).bind fun name =>
        (Scenario.named? name).bind (State.ofBody? tagged.2) := by
  change ((value.whole?).bind fun value => (value.tagged? "scenario").bind fun tagged =>
    (decode? tagged.1).bind fun name => (Scenario.named? name).bind fun scenario =>
      State.ofBody? tagged.2 scenario) = _
  rw [Json.whole?, if_pos h, Option.bind_some]

lemma sound_of_decode {value : Json} {state : State} (h : decode? value = some state) :
    value.sound = true := by
  obtain ⟨whole, hwhole, -⟩ := Option.bind_eq_some_iff.1 h
  rw [Json.whole?, Option.ite_none_right_eq_some] at hwhole
  exact hwhole.1

lemma state_step {value changed : Json} (h : StateStep value changed) :
    Preserved (decode? (α := State) value) (decode? changed) := by
  intro state hstate
  rw [decode_state_of_sound (sound_of_decode hstate)] at hstate
  rw [decode_state_of_sound h.sound]
  refine tagged_step (fun _ _ => taggedFields_ne_tag) (fun tag body changed hbody => ?_) h.step
    state hstate
  cases tag with
  | str name =>
    change Preserved ((Scenario.named? name).bind (State.ofBody? body))
      ((Scenario.named? name).bind (State.ofBody? changed))
    rw [taggedFields] at hbody
    cases hname : Scenario.named? name with
    | none => exact .refl none
    | some scenario =>
      rw [hname] at hbody
      exact ofBody?_step hbody
  | _ => exact .refl none

lemma name_named? {name : String} {scenario : Scenario} (h : Scenario.named? name = some scenario) :
    scenario.name = name := by
  simpa using List.find?_some h

lemma ofBody?_scenario {body : Json} {scenario : Scenario} {state : State}
    (h : State.ofBody? body scenario = some state) : state.scenario = scenario := by
  cases scenario <;> obtain ⟨read, -, rfl⟩ := Option.map_eq_some_iff.1 h <;> rfl

lemma tag_of_decode {members : List (String × Json)} {state : State}
    (h : decode? (.obj members) = some state) :
    Json.occurrences members "scenario" = 1 ∧
      Json.member? members "scenario" = some (.str state.scenario.name) := by
  rw [decode_state_of_sound (sound_of_decode h)] at h
  obtain ⟨⟨tag, body⟩, htagged, h⟩ := Option.bind_eq_some_iff.1 h
  obtain ⟨name, hname, h⟩ := Option.bind_eq_some_iff.1 h
  obtain ⟨scenario, hscenario, h⟩ := Option.bind_eq_some_iff.1 h
  rw [Json.tagged?, Option.ite_none_right_eq_some] at htagged
  obtain ⟨hcount, htagged⟩ := htagged
  obtain ⟨found, hfound, hpair⟩ := Option.map_eq_some_iff.1 htagged
  cases hpair
  refine ⟨hcount, hfound.trans ?_⟩
  rw [ofBody?_scenario h, name_named? hscenario]
  cases tag <;> cases hname
  rfl

lemma name_inj {a b : Scenario} (h : a.name = b.name) : a = b :=
  Option.some.inj ((named?_name a).symm.trans ((congrArg Scenario.named? h).trans (named?_name b)))

/-- States survive their form in JSON. A state with finite numbers is read back from the value
that is written for it. An object that is read as a state has one tag, and it names the scenario
of the state and no other. What is read stays the same if unknown members are added, and if
members with `null` for optional fields are left out, in the object itself and in the records
inside of it. -/
theorem state_survives_json (state : State) :
    (Numbers IsFinite state → decode? (nulled (encode state)) = some state) ∧
    (∀ members, decode? (.obj members) = some state →
      Json.occurrences members "scenario" = 1 ∧
        ∀ scenario : Scenario, Json.member? members "scenario" = some (.str scenario.name) ↔
          state.scenario = scenario) ∧
    ∀ value changed, decode? value = some state → Relation.ReflTransGen StateStep value changed →
      decode? changed = some state := by
  refine ⟨fun h => ?_, fun members h => ?_, fun value changed h hsteps => ?_⟩
  · have hfits : Fits IsFinite (treeHeight state + 5) (encode state) :=
      fits_state h (Nat.le_add_right _ _)
    rw [nulled_of_fits hfits, decode_encode]
  · obtain ⟨hcount, htag⟩ := tag_of_decode h
    refine ⟨hcount, fun scenario => ⟨fun hmember => ?_, ?_⟩⟩
    · rw [htag] at hmember
      exact name_inj (Json.str.inj (Option.some.inj hmember))
    · rintro rfl
      exact htag
  · induction hsteps with
    | refl => exact h
    | tail _ hstep ih => exact state_step hstep state ih

/-- A game with a plan that has no goal yet. -/
def planned : Strategy.State :=
  { Strategy.State.initial with plan := some ⟨"expansion", none⟩ }

/-- The form of that game, with a plan in some form. -/
def withPlan (plan : Json) : List (String × Json) :=
  [("scenario", .str "strategy"), ("resources", encode planned.resources),
    ("buildings", encode planned.buildings), ("units", encode planned.units)] ++
    ("plan", plan) :: [("turn", encode planned.turn)]

lemma planned_step : StateStep (.obj (withPlan (encode planned.plan)))
    (.obj (withPlan (.obj [("name", .str "expansion")]))) where
  step := by
    have htag : Json.member? (withPlan (encode planned.plan)) "scenario" =
      some (.str "strategy") := rfl
    refine .obj htag
      (.inside _ _ (.optionally "plan" Strategy.Plan) ?_ (.some nofun nofun (.obj ?_)))
    · have hfields : taggedFields (.str "strategy") = stateFields .strategy := rfl
      simp [hfields, stateFields]
    · exact .absent [("name", .str "expansion")] [] (.optionally "goal" String) (by simp) rfl
  sound := by decide +kernel

theorem plan_without_goal_read :
    decode? (nulled (encode (State.strategy planned))) = some (State.strategy planned) ∧
    State.scenario (.strategy planned) = .strategy ∧
    decode? (.obj (withPlan (.obj [("name", .str "expansion")]))) =
      some (State.strategy planned) := by
  obtain ⟨hread, htag, hsteps⟩ := state_survives_json (.strategy planned)
  have hplanned : decode? (.obj (withPlan (encode planned.plan))) = some (State.strategy planned) :=
    decode_encode (State.strategy planned)
  exact ⟨hread trivial, ((htag _ hplanned).2 .strategy).1 rfl,
    hsteps _ _ hplanned (.single planned_step)⟩

end Microworlds.Proofs

import Microworlds.Proofs.Algorithm.Sorting
import Microworlds.Proofs.DataStructure.Operation
import Microworlds.Proofs.DataStructure.Insertion

/-!
# Search trees

The nodes of a tree stand at places, each of which is given by the turns that lead to it from the root. An
insertion puts one leaf at a place that was free, and all other places keep what they have. A tree in
which the values to the left of each node are smaller and those to the right are not stays so.
-/

namespace Microworlds.Proofs

open DataStructure (Tree)

/-- A turn on the way down from a node. -/
inductive Turn where
  | left
  | right
  deriving DecidableEq

/-- The value of the node at a place, if there is a node. -/
def valueAt : Tree → List Turn → Option Int64
  | .empty, _ => none
  | .node value _ _, [] => some value
  | .node _ left _, .left :: way => valueAt left way
  | .node _ _ right, .right :: way => valueAt right way

/-- Every value to the left of a node is smaller than the one of the node, and no value to the right is. -/
structure IsSearchTree (tree : Tree) : Prop where
  left : ∀ place way x y, valueAt tree place = some x →
    valueAt tree (place ++ .left :: way) = some y → y < x
  right : ∀ place way x y, valueAt tree place = some x →
    valueAt tree (place ++ .right :: way) = some y → x ≤ y

variable {tree left right : Tree} {v value : Int64}

/-! ### The new leaf -/

lemma valueAt_append {place : List Turn} (h : valueAt tree place = none) (way : List Turn) :
    valueAt tree (place ++ way) = none := by
  induction tree generalizing place with
  | empty => rfl
  | node value left right ihleft ihright =>
    match place with
    | [] => cases h
    | .left :: place => exact ihleft h
    | .right :: place => exact ihright h

/-- The turns that an insertion takes. -/
def turns (v : Int64) : Tree → List Turn
  | .empty => []
  | .node value left right =>
    if v < value then .left :: turns v left else .right :: turns v right

lemma valueAt_turns (v : Int64) (tree : Tree) : valueAt tree (turns v tree) = none := by
  induction tree with
  | empty => rfl
  | node value left right ihleft ihright =>
    rw [turns]
    split
    · exact ihleft
    · exact ihright

lemma valueAt_insert (v : Int64) (tree : Tree) (place : List Turn) :
    valueAt (tree.insert v) place = if place = turns v tree then some v else valueAt tree place := by
  induction tree generalizing place with
  | empty => match place with
    | [] => rfl
    | .left :: _ => rfl
    | .right :: _ => rfl
  | node value left right ihleft ihright =>
    rw [Tree.insert, turns]
    split
    · match place with
      | [] => simp [valueAt]
      | .left :: place => simp [valueAt, ihleft]
      | .right :: place => simp [valueAt]
    · match place with
      | [] => simp [valueAt]
      | .left :: place => simp [valueAt]
      | .right :: place => simp [valueAt, ihright]

lemma length_path (v : Int64) (tree : Tree) : (tree.path v).length = (turns v tree).length := by
  induction tree with
  | empty => rfl
  | node value left right ihleft ihright =>
    rw [Tree.path, turns]
    split <;> simp [ihleft, ihright]

lemma path_getElem? (v : Int64) (tree : Tree) {k : Nat} (hk : k < (turns v tree).length) :
    (tree.path v)[k]? = valueAt tree ((turns v tree).take k) := by
  induction tree generalizing k with
  | empty => exact absurd hk (Nat.not_lt_zero k)
  | node value left right ihleft ihright =>
    match k with
    | 0 => rfl
    | k + 1 =>
      rw [Tree.path]
      rw [turns] at hk ⊢
      split at hk
      · next hless =>
        rw [if_pos hless, if_pos hless]
        exact ihleft (Nat.lt_of_succ_lt_succ hk)
      · next hless =>
        rw [if_neg hless, if_neg hless]
        exact ihright (Nat.lt_of_succ_lt_succ hk)

/-! ### Values in order -/

lemma mem_inOrder {x : Int64} : x ∈ tree.inOrder ↔ ∃ place, valueAt tree place = some x := by
  induction tree with
  | empty => simp [Tree.inOrder, valueAt]
  | node value left right ihleft ihright =>
    rw [Tree.inOrder, List.mem_append, List.mem_cons, ihleft, ihright]
    constructor
    · rintro (⟨place, hplace⟩ | rfl | ⟨place, hplace⟩)
      · exact ⟨.left :: place, hplace⟩
      · exact ⟨[], rfl⟩
      · exact ⟨.right :: place, hplace⟩
    · rintro ⟨place, hplace⟩
      match place with
      | [] => exact .inr (.inl (Option.some.inj hplace).symm)
      | .left :: place => exact .inl ⟨place, hplace⟩
      | .right :: place => exact .inr (.inr ⟨place, hplace⟩)

lemma isSearchTree_empty : IsSearchTree .empty where
  left := nofun
  right := nofun

lemma isSearchTree_node :
    IsSearchTree (.node value left right) ↔ (∀ x ∈ left.inOrder, x < value) ∧
      (∀ x ∈ right.inOrder, value ≤ x) ∧ IsSearchTree left ∧ IsSearchTree right := by
  constructor
  · intro h
    refine ⟨fun x hx => ?_, fun x hx => ?_, ⟨?_, ?_⟩, ⟨?_, ?_⟩⟩
    · obtain ⟨way, hway⟩ := mem_inOrder.mp hx
      exact h.left [] way value x rfl hway
    · obtain ⟨way, hway⟩ := mem_inOrder.mp hx
      exact h.right [] way value x rfl hway
    · exact fun place => h.left (.left :: place)
    · exact fun place => h.right (.left :: place)
    · exact fun place => h.left (.right :: place)
    · exact fun place => h.right (.right :: place)
  · rintro ⟨hsmaller, hgreater, hleft, hright⟩
    constructor
    · rintro (_ | ⟨_ | _, place⟩) way x y hx hy
      · cases hx
        exact hsmaller y (mem_inOrder.mpr ⟨way, hy⟩)
      · exact hleft.left place way x y hx hy
      · exact hright.left place way x y hx hy
    · rintro (_ | ⟨_ | _, place⟩) way x y hx hy
      · cases hx
        exact hgreater y (mem_inOrder.mpr ⟨way, hy⟩)
      · exact hleft.right place way x y hx hy
      · exact hright.right place way x y hx hy

lemma IsSearchTree.ascending (h : IsSearchTree tree) : tree.inOrder.Pairwise (· ≤ ·) := by
  induction tree with
  | empty => exact .nil
  | node value left right ihleft ihright =>
    obtain ⟨hsmaller, hgreater, hleft, hright⟩ := isSearchTree_node.mp h
    refine List.pairwise_append.mpr
      ⟨ihleft hleft, List.pairwise_cons.mpr ⟨hgreater, ihright hright⟩, fun x hx y hy => ?_⟩
    have hx := Int64.le_of_lt (hsmaller x hx)
    obtain rfl | hy := List.mem_cons.mp hy
    · exact hx
    · exact Int64.le_trans hx (hgreater y hy)

lemma IsSearchTree.insert (h : IsSearchTree tree) (v : Int64) : IsSearchTree (tree.insert v) := by
  induction tree with
  | empty => exact isSearchTree_node.mpr ⟨nofun, nofun, isSearchTree_empty, isSearchTree_empty⟩
  | node value left right ihleft ihright =>
    obtain ⟨hsmaller, hgreater, hleft, hright⟩ := isSearchTree_node.mp h
    rw [Tree.insert]
    split
    · next hless =>
      refine isSearchTree_node.mpr ⟨fun x hx => ?_, hgreater, ihleft hleft, hright⟩
      obtain rfl | hx := List.mem_cons.mp ((inOrder_insert_perm v left).mem_iff.mp hx)
      · exact hless
      · exact hsmaller x hx
    · next hless =>
      refine isSearchTree_node.mpr ⟨hsmaller, fun x hx => ?_, hleft, ihright hright⟩
      obtain rfl | hx := List.mem_cons.mp ((inOrder_insert_perm v right).mem_iff.mp hx)
      · exact Int64.not_lt.mp hless
      · exact hgreater x hx

/-- In order, the new value stands behind all values that are not greater and in front of the others. -/
lemma IsSearchTree.inOrder_insert (h : IsSearchTree tree) (v : Int64) :
    ∃ small large, tree.inOrder = small ++ large ∧ (tree.insert v).inOrder = small ++ v :: large ∧
      (∀ x ∈ small, x ≤ v) ∧ ∀ x ∈ large, v < x := by
  induction tree with
  | empty => exact ⟨[], [], rfl, rfl, nofun, nofun⟩
  | node value left right ihleft ihright =>
    obtain ⟨hsmaller, hgreater, hleft, hright⟩ := isSearchTree_node.mp h
    rw [Tree.insert]
    split
    · next hless =>
      obtain ⟨small, large, hbefore, hafter, hsmall, hlarge⟩ := ihleft hleft
      refine ⟨small, large ++ value :: right.inOrder, ?_, ?_, hsmall, ?_⟩
      · rw [Tree.inOrder, hbefore, List.append_assoc]
      · rw [Tree.inOrder, hafter, List.append_assoc]
        rfl
      · refine List.forall_mem_append.mpr ⟨hlarge, List.forall_mem_cons.mpr ⟨hless, fun x hx => ?_⟩⟩
        exact Int64.lt_of_lt_of_le hless (hgreater x hx)
    · next hless =>
      have hvalue := Int64.not_lt.mp hless
      obtain ⟨small, large, hbefore, hafter, hsmall, hlarge⟩ := ihright hright
      refine ⟨left.inOrder ++ value :: small, large, ?_, ?_, ?_, hlarge⟩
      · rw [Tree.inOrder, hbefore, List.append_assoc]
        rfl
      · rw [Tree.inOrder, hafter, List.append_assoc]
        rfl
      · refine List.forall_mem_append.mpr ⟨fun x hx => ?_, List.forall_mem_cons.mpr ⟨hvalue, hsmall⟩⟩
        exact Int64.le_trans (Int64.le_of_lt (hsmaller x hx)) hvalue

/-- The tree after some insertions. -/
def grown (tree : Tree) (values : List Int64) : Tree :=
  values.foldl (fun tree v => tree.insert v) tree

lemma grown_isSearchTree (h : IsSearchTree tree) (values : List Int64) :
    IsSearchTree (grown tree values) := by
  induction values generalizing tree with
  | nil => exact h
  | cons v more ih => exact ih (h.insert v)

lemma grown_inOrder_perm (tree : Tree) (values : List Int64) :
    (grown tree values).inOrder.Perm (values ++ tree.inOrder) := by
  induction values generalizing tree with
  | nil => exact .refl _
  | cons v more ih =>
    have hinsert := (inOrder_insert_perm v tree).append_left more
    exact (ih (tree.insert v)).trans (hinsert.trans List.perm_middle)

lemma isSearchTree_reached (commands : List DataStructure.Command) :
    IsSearchTree (reached DataStructure.perform .initial commands).tree := by
  refine history_induction dataStructure_atomic (motive := fun _ state => IsSearchTree state.tree)
    isSearchTree_empty ?_ ?_ commands
  · intro events state command effect after htree hperform
    cases data_change hperform with
    | treeInsert v => exact htree.insert v
    | _ => exact htree
  · intro events state command e htree
    exact htree

/-- An insertion into a tree adds one leaf. In any tree it stands at a place that was free, and every
other place keeps what it has. The values that are returned are those on the way from the root to the node
above the leaf, so there are as many of them as the leaf is deep. A search tree stays a search tree, its
values stand in ascending order, and the new one stands right behind those that are not greater. So the
values of any list that are inserted into the empty tree stand in it as the sorted list, and there is a
search tree in every state that is reached. -/
theorem insertion_adds_leaf (tree : Tree) (v : Int64) :
    (∃ place, valueAt tree place = none ∧
      (∀ other, valueAt (tree.insert v) other =
        if other = place then some v else valueAt tree other) ∧
      (∀ turn way, valueAt (tree.insert v) (place ++ turn :: way) = none) ∧
      (tree.path v).length = place.length ∧
      (∀ k < place.length, (tree.path v)[k]? = valueAt tree (place.take k)) ∧
      ∀ state : DataStructure.State,
        let depth := place.length
        DataStructure.perform (.treeInsert v) { state with tree } =
          .ok ⟨s!"tree insert: {v} at depth {depth}", (tree.path v).map .visit⟩
            { state with tree := tree.insert v }) ∧
    (IsSearchTree tree →
      IsSearchTree (tree.insert v) ∧ (tree.insert v).inOrder.Pairwise (· ≤ ·) ∧
      ∃ small large, tree.inOrder = small ++ large ∧ (tree.insert v).inOrder = small ++ v :: large ∧
        (∀ x ∈ small, x ≤ v) ∧ ∀ x ∈ large, v < x) ∧
    (∀ values, Arranged values (grown .empty values).inOrder) ∧
    ∀ commands, IsSearchTree (reached DataStructure.perform .initial commands).tree := by
  refine ⟨⟨turns v tree, valueAt_turns v tree, valueAt_insert v tree, fun turn way => ?_,
    length_path v tree, fun k hk => path_getElem? v tree hk, fun state => ?_⟩,
    fun hsearch => ⟨hsearch.insert v, (hsearch.insert v).ascending, hsearch.inOrder_insert v⟩,
    fun values => ⟨?_, (grown_isSearchTree isSearchTree_empty values).ascending⟩, isSearchTree_reached⟩
  · have hlonger : turns v tree ++ turn :: way ≠ turns v tree := by simp
    rw [valueAt_insert, if_neg hlonger]
    exact valueAt_append (valueAt_turns v tree) (turn :: way)
  · rw [← length_path]
    rfl
  · have hperm := grown_inOrder_perm .empty values
    rwa [Tree.inOrder, List.append_nil] at hperm

/-- A tree with a value that stands in it twice. -/
def mixedTree : Tree := grown .empty [5, 3, 8, 4, 5]

theorem seven_inserted :
    IsSearchTree mixedTree ∧ mixedTree.path 7 = [5, 8, 5] ∧
    (∃ place, place.length = 3 ∧ valueAt (mixedTree.insert 7) place = some 7 ∧
      valueAt mixedTree (place.take 1) = some 8) ∧
    IsSearchTree (mixedTree.insert 7) ∧ (mixedTree.insert 7).inOrder = [3, 4, 5, 5, 7, 8] ∧
    (mixedTree.insert 7).inOrder.Pairwise (· ≤ ·) := by
  have hsearch : IsSearchTree mixedTree := grown_isSearchTree isSearchTree_empty _
  have hpath : mixedTree.path 7 = [5, 8, 5] := by decide +kernel
  obtain ⟨⟨place, -, hinsert, -, hdepth, hway, -⟩, hkept, -⟩ := insertion_adds_leaf mixedTree 7
  obtain ⟨hstays, hascending, -⟩ := hkept hsearch
  rw [hpath] at hdepth hway
  have hlength : place.length = 3 := hdepth.symm
  refine ⟨hsearch, hpath, ⟨place, hlength, ?_, (hway 1 (by omega)).symm⟩, hstays, by decide +kernel,
    hascending⟩
  rw [hinsert, if_pos rfl]

end Microworlds.Proofs

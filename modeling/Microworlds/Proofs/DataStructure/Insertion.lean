import Microworlds.DataStructure.Heap
import Microworlds.DataStructure.Tree
import Mathlib.Tactic.Lemma

/-!
# Insertions keep what is there

An insertion into a search tree or into a heap adds one number to those that are there. It moves some of
them, and none comes or goes.
-/

namespace Microworlds.Proofs

lemma inOrder_insert_perm (v : Int64) (tree : DataStructure.Tree) :
    (tree.insert v).inOrder.Perm (v :: tree.inOrder) := by
  induction tree with
  | empty => exact .refl _
  | node value left right ihleft ihright =>
    rw [DataStructure.Tree.insert]
    split
    · exact ihleft.append_right (value :: right.inOrder)
    · have hright : (left.inOrder ++ value :: (right.insert v).inOrder).Perm
          (left.inOrder ++ value :: v :: right.inOrder) :=
        (ihright.cons value).append_left left.inOrder
      apply hright.trans
      have hswap : (value :: v :: right.inOrder).Perm (v :: value :: right.inOrder) :=
        .swap v value right.inOrder
      exact (hswap.append_left left.inOrder).trans List.perm_middle

lemma exchange_perm (values : List Int64) (i j : Nat) :
    (DataStructure.exchange values i j).Perm values := by
  unfold DataStructure.exchange
  split
  · next x y hx hy =>
    obtain ⟨hi, rfl⟩ := List.getElem?_eq_some_iff.mp hx
    obtain ⟨hj, rfl⟩ := List.getElem?_eq_some_iff.mp hy
    exact List.set_set_perm hi hj
  · exact .refl _

lemma siftUp_perm (values : List Int64) (child : Nat) :
    (DataStructure.siftUp values child).1.Perm values := by
  fun_induction DataStructure.siftUp values child with
  | case1 => exact .refl _
  | case2 => exact .refl _
  | case3 values below above x y hx hy hless result steps hsift ih =>
    rw [hsift] at ih
    exact ih.trans (exchange_perm values above (below + 1))
  | case4 => exact .refl _

lemma heapPush_perm (values : List Int64) (value : Int64) :
    (DataStructure.heapPush values value).1.Perm (value :: values) :=
  (siftUp_perm (values ++ [value]) values.length).trans List.perm_append_comm

end Microworlds.Proofs

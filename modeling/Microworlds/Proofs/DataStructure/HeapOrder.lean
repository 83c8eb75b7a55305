import Microworlds.Proofs.Animation
import Microworlds.Proofs.Careful.Sorting
import Microworlds.Proofs.DataStructure.Operation

/-!
# Heaps stay heaps

A value that is put into a heap rises from the end. On its way it is the only one that may be greater than
the value above it, and the values below it are not greater than the one above it. So the list is a heap
again as soon as it rests.
-/

namespace Microworlds.Proofs

open DataStructure (exchange siftUp heapPush)

variable {values work result heap : List Int64} {steps more : List Step} {child i j : Nat} {x y : Int64}

/-- No value is greater than the one at the position above it. -/
def IsHeap (values : List Int64) : Prop :=
  ∀ i x y, 0 < i → values[i]? = some x → values[(i - 1) / 2]? = some y → x ≤ y

/-- A value that may be too great for its position is on its way: all other values are in order, and those
below it are not greater than the one above it. -/
structure Rising (values : List Int64) (child : Nat) : Prop where
  others : ∀ i x y, 0 < i → i ≠ child → values[i]? = some x → values[(i - 1) / 2]? = some y → x ≤ y
  below : ∀ i x y, 0 < i → 0 < child → (i - 1) / 2 = child → values[i]? = some x →
    values[(child - 1) / 2]? = some y → x ≤ y

/-- Exchanges of a value with a smaller one above it, each from the position to which the one before has
brought it, with the working copy at the beginning and at the end. -/
inductive Climb : List Int64 → Nat → List Step → List Int64 → Prop
  | rests (work : List Int64) (child : Nat) : Climb work child [] work
  | climbs {work result : List Int64} {child : Nat} {x y : Int64} {more : List Step} (hchild : 0 < child)
      (habove : work[(child - 1) / 2]? = some x) (hvalue : work[child]? = some y) (hless : x < y)
      (hmore : Climb (exchange work child ((child - 1) / 2)) ((child - 1) / 2) more result) :
    Climb work child (.heapSwap child ((child - 1) / 2) :: more) result

lemma Climb.played_eq (h : Climb work child steps result) : played work steps = result := by
  induction h with
  | rests => rfl
  | climbs _ _ _ _ _ ih => exact ih

lemma siftUp_climbs (values : List Int64) (child : Nat) :
    Climb values child (siftUp values child).2 (siftUp values child).1 := by
  fun_induction siftUp values child with
  | case1 => exact .rests _ _
  | case2 => exact .rests _ _
  | case3 values below above x y hy hx hless result steps hsift ih =>
    rw [hsift, exchange_comm] at ih
    exact .climbs (Nat.succ_pos below) hx hy (Int64.not_le.mp hless) ih
  | case4 => exact .rests _ _

/-! ### Order -/

lemma getElem?_exchange_left (hx : work[i]? = some x) (hy : work[j]? = some y) (hne : i ≠ j) :
    (exchange work i j)[i]? = some y := by
  obtain ⟨hi, -⟩ := List.getElem?_eq_some_iff.mp hx
  rw [exchange_of_some hx hy, List.getElem?_set_ne hne.symm, List.getElem?_set_self hi]

lemma getElem?_exchange_right (hx : work[i]? = some x) (hy : work[j]? = some y) :
    (exchange work i j)[j]? = some x := by
  obtain ⟨hj, -⟩ := List.getElem?_eq_some_iff.mp hy
  rw [exchange_of_some hx hy, List.getElem?_set_self (by simpa using hj)]

lemma Rising.exchanged (h : Rising values child) (hchild : 0 < child)
    (hx : values[(child - 1) / 2]? = some x) (hy : values[child]? = some y) (hless : x < y) :
    Rising (exchange values ((child - 1) / 2) child) ((child - 1) / 2) := by
  have hne : (child - 1) / 2 ≠ child := by omega
  have habove := getElem?_exchange_left hx hy hne
  have hhere := getElem?_exchange_right hx hy
  have helse : ∀ k, k ≠ (child - 1) / 2 → k ≠ child →
      (exchange values ((child - 1) / 2) child)[k]? = values[k]? := fun k hup hdown =>
    getElem?_exchange_of_ne values hup.symm hdown.symm
  constructor
  · intro i z w hi hother hz hw
    by_cases hsame : i = child
    · -- what stood above is smaller than what has risen
      subst hsame
      rw [hhere] at hz
      rw [habove] at hw
      cases hz
      cases hw
      exact Int64.le_of_lt hless
    rw [helse i hother hsame] at hz
    by_cases hbelow : (i - 1) / 2 = child
    · -- what stood above came in between
      rw [hbelow, hhere] at hw
      cases hw
      exact h.below i z x hi hchild hbelow hz hx
    by_cases hbeside : (i - 1) / 2 = (child - 1) / 2
    · -- the other value below the same one now has a greater one above it
      rw [hbeside, habove] at hw
      cases hw
      exact Int64.le_trans (h.others i z x hi hsame hz (hbeside ▸ hx)) (Int64.le_of_lt hless)
    rw [helse _ hbeside hbelow] at hw
    exact h.others i z w hi hsame hz hw
  · intro i z w hi hup hbelow hz hw
    rw [helse _ (by omega) (by omega)] at hw
    have hstep : x ≤ w := h.others _ x w hup hne hx hw
    by_cases hsame : i = child
    · subst hsame
      rw [hhere] at hz
      cases hz
      exact hstep
    rw [helse i (by omega) hsame] at hz
    exact Int64.le_trans (h.others i z x hi hsame hz (hbelow ▸ hx)) hstep

lemma Rising.rests (h : Rising values child)
    (hchild : ∀ x y, 0 < child → values[child]? = some x → values[(child - 1) / 2]? = some y → x ≤ y) :
    IsHeap values := by
  intro i x y hi hx hy
  by_cases hsame : i = child
  · subst hsame
    exact hchild x y hi hx hy
  · exact h.others i x y hi hsame hx hy

lemma siftUp_isHeap (h : Rising values child) : IsHeap (siftUp values child).1 := by
  fun_induction siftUp values child with
  | case1 => exact h.rests fun _ _ hbelow => absurd hbelow (Nat.lt_irrefl 0)
  | case2 values below above x y hy hx hle =>
    refine h.rests fun z w _ hz hw => ?_
    cases hy.symm.trans hz
    cases hx.symm.trans hw
    exact hle
  | case3 values below above x y hy hx hless result steps hsift ih =>
    rw [hsift] at ih
    exact ih (h.exchanged (Nat.succ_pos below) hx hy (Int64.not_le.mp hless))
  | case4 values below above hnone => exact h.rests fun z w _ hz hw => (hnone w z hw hz).elim

/-- A value behind a heap is the only one that may be too great. -/
lemma IsHeap.rising (h : IsHeap heap) (v : Int64) : Rising (heap ++ [v]) heap.length := by
  have hrange : ∀ {k z}, k ≠ heap.length → (heap ++ [v])[k]? = some z →
      k < heap.length ∧ heap[k]? = some z := by
    intro k z hother hz
    obtain ⟨hk, -⟩ := List.getElem?_eq_some_iff.mp hz
    rw [List.length_append, List.length_singleton] at hk
    have hbefore : k < heap.length := by omega
    rw [List.getElem?_append_left hbefore] at hz
    exact ⟨hbefore, hz⟩
  constructor
  · intro i x y hi hother hx hy
    obtain ⟨hlength, hx⟩ := hrange hother hx
    obtain ⟨-, hy⟩ := hrange (by omega) hy
    exact h i x y hi hx hy
  · intro i x y hi _ hbelow hx _
    -- no position is below the last one
    obtain ⟨hlength, -⟩ := hrange (by omega) hx
    omega

lemma IsHeap.push (h : IsHeap heap) (v : Int64) : IsHeap (heapPush heap v).1 :=
  siftUp_isHeap (h.rising v)

/-! ### Histories -/

lemma isHeap_nil : IsHeap [] := nofun

lemma isHeap_reached (commands : List DataStructure.Command) :
    IsHeap (reached DataStructure.perform .initial commands).heap := by
  refine history_induction dataStructure_atomic (motive := fun _ state => IsHeap state.heap) isHeap_nil
    ?_ ?_ commands
  · intro events state command effect after hheap hperform
    cases data_change hperform with
    | heapInsert v => exact hheap.push v
    | _ => exact hheap
  · intro events state command e hheap
    exact hheap

/-- An insertion into a heap adds the value to the list and moves it up to its place. The loop over
positions does the same. The steps are the exchanges on this way: each is one of a position with the
position above it, from where the next one goes on, and the first one begins at the end. Together they
make the new list out of the old one with the value at its end. A heap stays a heap, and so there is one in
every state that is reached. -/
theorem insertion_keeps_heap (heap : List Int64) (v : Int64) :
    ∃ result steps, heapPush heap v = (result, steps) ∧
      (Careful.heapPush heap v : Careful Empty Work) = .ok ⟨result, steps⟩ ∧
      result.Perm (v :: heap) ∧ played (heap ++ [v]) steps = result ∧
      Climb (heap ++ [v]) heap.length steps result ∧ (IsHeap heap → IsHeap result) ∧
      (∀ state : DataStructure.State,
        let text := showList result
        DataStructure.perform (.heapInsert v) { state with heap } =
          .ok ⟨s!"heap insert: {v} (heap: {text})", steps⟩ { state with heap := result }) ∧
      ∀ commands, IsHeap (reached DataStructure.perform .initial commands).heap := by
  have hclimb : Climb (heap ++ [v]) heap.length (heapPush heap v).2 (heapPush heap v).1 :=
    siftUp_climbs (heap ++ [v]) heap.length
  exact ⟨(heapPush heap v).1, (heapPush heap v).2, rfl, heapPush_eq heap v, heapPush_perm heap v,
    hclimb.played_eq, hclimb, fun h => h.push v, fun state => rfl, isHeap_reached⟩

theorem seven_rises :
    IsHeap [5, 3] ∧ heapPush [5, 3] 7 = ([7, 3, 5], [.heapSwap 2 0]) ∧ IsHeap [7, 3, 5] ∧
    Climb [5, 3, 7] 2 [.heapSwap 2 0] [7, 3, 5] := by
  have hseven : heapPush [5, 3] 7 = ([7, 3, 5], [.heapSwap 2 0]) := by decide +kernel
  have hpair : IsHeap [5, 3] := by
    intro i x y hi hx hy
    match i, hi with
    | 1, _ =>
      cases hx
      cases hy
      decide
  obtain ⟨result, steps, hpush, -, -, -, hclimb, hheap, -⟩ := insertion_keeps_heap [5, 3] 7
  rw [hseven] at hpush
  cases hpush
  exact ⟨hpair, hseven, hheap hpair, hclimb⟩

end Microworlds.Proofs

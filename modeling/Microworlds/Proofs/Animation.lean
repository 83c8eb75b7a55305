import Microworlds.Proofs.DataStructure.Insertion
import Mathlib.Data.List.Perm.Basic

/-!
# Steps shown on a working copy

An animation has a working copy of a list and goes through some steps. A swap exchanges two values of the
copy, and the other steps leave it as it is. `played` is the copy after all steps. A sort comes to its
steps in rounds, each of which ends with a position that no later step moves.
-/

namespace Microworlds.Proofs

open DataStructure (exchange)

variable {work after other : List Int64} {step : Step} {steps before more : List Step} {i j k : Nat}
  {x y : Int64}

/-! ### Exchanges -/

lemma exchange_of_some (hx : work[i]? = some x) (hy : work[j]? = some y) :
    exchange work i j = (work.set i y).set j x := by
  unfold exchange
  simp only [hx, hy]

lemma exchange_comm (work : List Int64) (i j : Nat) : exchange work i j = exchange work j i := by
  by_cases hsame : i = j
  · rw [hsame]
  · unfold exchange
    cases work[i]? <;> cases work[j]? <;> simp only
    exact List.set_comm _ _ hsame

lemma length_exchange (work : List Int64) (i j : Nat) : (exchange work i j).length = work.length :=
  (exchange_perm work i j).length_eq

lemma getElem?_exchange_of_ne (work : List Int64) (hi : i ≠ k) (hj : j ≠ k) :
    (exchange work i j)[k]? = work[k]? := by
  unfold exchange
  split
  · rw [List.getElem?_set_ne hj, List.getElem?_set_ne hi]
  · rfl

lemma exists_between (hx : work[i]? = some x) (hy : work[j]? = some y) (horder : i < j) :
    ∃ front middle back, work = front ++ x :: (middle ++ y :: back) ∧ front.length = i ∧
      j = i + 1 + middle.length := by
  obtain ⟨hi, rfl⟩ := List.getElem?_eq_some_iff.mp hx
  have hbehind : (work.drop (i + 1))[j - (i + 1)]? = some y := by
    rw [List.getElem?_drop, Nat.add_sub_cancel' horder]
    exact hy
  obtain ⟨hj, hvalue⟩ := List.getElem?_eq_some_iff.mp hbehind
  refine ⟨work.take i, (work.drop (i + 1)).take (j - (i + 1)), (work.drop (i + 1)).drop (j - (i + 1) + 1),
    ?_, List.length_take_of_le (Nat.le_of_lt hi), ?_⟩
  · rw [← hvalue, ← List.drop_eq_getElem_cons hj, List.take_append_drop, ← List.drop_eq_getElem_cons hi,
      List.take_append_drop]
  · rw [List.length_take_of_le (Nat.le_of_lt hj)]
    omega

lemma getElem?_behind (front rest : List Int64) (x : Int64) (k : Nat) :
    (front ++ x :: rest)[front.length + 1 + k]? = rest[k]? := by
  rw [Nat.add_assoc, List.getElem?_append_right (Nat.le_add_right _ _), Nat.add_sub_cancel_left,
    Nat.add_comm 1 k]
  rfl

lemma exchange_behind (front : List Int64) (x : Int64) {rest : List Int64} (hy : rest[k]? = some y) :
    exchange (front ++ x :: rest) front.length (front.length + 1 + k) =
      front ++ y :: rest.set k x := by
  have hx : (front ++ x :: rest)[front.length]? = some x := by simp
  have hplace : front.length + 1 + k - front.length = k + 1 := by omega
  have hbehind : ¬ front.length + 1 + k < front.length := by omega
  rw [exchange_of_some hx ((getElem?_behind front rest x k).trans hy)]
  simp [List.set_append, hplace, hbehind]

lemma exchange_between (front middle back : List Int64) (x y : Int64) :
    exchange (front ++ x :: (middle ++ y :: back)) front.length (front.length + 1 + middle.length) =
      front ++ y :: (middle ++ x :: back) := by
  have hy : (middle ++ y :: back)[middle.length]? = some y := by simp
  rw [exchange_behind front x hy]
  simp

/-! ### Working copies -/

/-- The working copy after a step. -/
def shown (work : List Int64) : Step → List Int64
  | .swap left right => exchange work left right
  | .heapSwap child parent => exchange work child parent
  | _ => work

/-- The working copy after some steps. -/
def played (work : List Int64) (steps : List Step) : List Int64 :=
  steps.foldl shown work

@[simp] lemma shown_compare (work : List Int64) (left right : Nat) :
    shown work (.compare left right) = work := rfl

@[simp] lemma shown_swap (work : List Int64) (left right : Nat) :
    shown work (.swap left right) = exchange work left right := rfl

@[simp] lemma shown_settle (work : List Int64) (k : Nat) : shown work (.settle k) = work := rfl

lemma length_shown (work : List Int64) (step : Step) : (shown work step).length = work.length := by
  cases step with
  | swap left right => exact length_exchange work left right
  | heapSwap child parent => exact length_exchange work child parent
  | _ => rfl

lemma length_played (work : List Int64) (steps : List Step) :
    (played work steps).length = work.length := by
  induction steps generalizing work with
  | nil => rfl
  | cons step more ih => exact (ih (shown work step)).trans (length_shown work step)

/-- A step of a sort that fits a working copy: its positions are positions of the copy, and a swap brings
the smaller one of two values to the front. -/
inductive Showable (work : List Int64) : Step → Prop
  | compare {left right : Nat} (hleft : left < work.length) (hright : right < work.length) :
    Showable work (.compare left right)
  | swap {left right : Nat} {x y : Int64} (horder : left < right) (hleft : work[left]? = some x)
      (hright : work[right]? = some y) (hless : y < x) :
    Showable work (.swap left right)
  | settle {k : Nat} (hk : k < work.length) : Showable work (.settle k)

/-- Steps that lead from one working copy to another one, and each of which fits when it is its turn. -/
inductive Leads : List Int64 → List Step → List Int64 → Prop
  | done (work : List Int64) : Leads work [] work
  | step {work after : List Int64} {step : Step} {more : List Step} (hstep : Showable work step)
      (hmore : Leads (shown work step) more after) :
    Leads work (step :: more) after

lemma Leads.append (h : Leads work before other) (hmore : Leads other more after) :
    Leads work (before ++ more) after := by
  induction h with
  | done => exact hmore
  | step hstep _ ih => exact .step hstep (ih hmore)

lemma Leads.played_eq (h : Leads work steps after) : played work steps = after := by
  induction h with
  | done => rfl
  | step _ _ ih => exact ih

lemma Leads.length_eq (h : Leads work steps after) : after.length = work.length := by
  rw [← h.played_eq, length_played]

lemma Leads.at_step (h : Leads work (before ++ step :: more) after) :
    Showable (played work before) step ∧ Leads (shown (played work before) step) more after := by
  induction before generalizing work with
  | nil =>
    cases h with
    | step hstep hmore => exact ⟨hstep, hmore⟩
  | cons first before ih =>
    cases h with
    | step hfirst hrest => exact ih hrest

lemma Leads.swap_lt {left right : Nat} (h : Leads work steps after)
    (hswap : .swap left right ∈ steps) : left < right ∧ right < work.length := by
  induction h with
  | done => exact absurd hswap List.not_mem_nil
  | @step work after step more hstep hmore ih =>
    obtain rfl | hlater := List.mem_cons.mp hswap
    · cases hstep with
      | swap horder hleft hright hless =>
        obtain ⟨hlength, -⟩ := List.getElem?_eq_some_iff.mp hright
        exact ⟨horder, hlength⟩
    · rw [← length_shown work step]
      exact ih hlater

/-- A step does not move the value at a position. -/
def Spares (k : Nat) (step : Step) : Prop :=
  ∀ left right, step = .swap left right → left ≠ k ∧ right ≠ k

lemma Leads.getElem?_eq (h : Leads work steps after) (hspared : ∀ step ∈ steps, Spares k step) :
    after[k]? = work[k]? := by
  induction h with
  | done => rfl
  | @step work after step more hstep hmore ih =>
    obtain ⟨hfirst, hlater⟩ := List.forall_mem_cons.mp hspared
    rw [ih hlater]
    cases hstep with
    | compare => rfl
    | settle => rfl
    | swap =>
      obtain ⟨hleft, hright⟩ := hfirst _ _ rfl
      exact getElem?_exchange_of_ne work hleft hright

lemma leads_comparisons
    (h : ∀ step ∈ steps, ∃ left right, step = .compare left right ∧ left < work.length ∧
      right < work.length) :
    Leads work steps work := by
  induction steps with
  | nil => exact .done work
  | cons step more ih =>
    obtain ⟨⟨left, right, rfl, hleft, hright⟩, hmore⟩ := List.forall_mem_cons.mp h
    exact .step (.compare hleft hright) (ih hmore)

/-! ### Rounds -/

/-- Steps in rounds. A round compares and swaps and then settles a position, and no later step moves the
value there. The positions stand in the order in which they are settled. -/
inductive Rounds : List Nat → List Step → Prop
  | done : Rounds [] []
  | round {k : Nat} {later : List Nat} {busy more : List Step} (hbusy : ∀ p, .settle p ∉ busy)
      (hspared : ∀ step ∈ more, Spares k step) (hmore : Rounds later more) :
    Rounds (k :: later) (busy ++ .settle k :: more)

variable {settled : List Nat}

lemma Rounds.count_settle (h : Rounds settled steps) (k : Nat) :
    steps.count (.settle k) = settled.count k := by
  induction h with
  | done => rfl
  | @round p later busy more hbusy hspared hmore ih =>
    have hnone : busy.count (.settle k) = 0 := List.count_eq_zero.mpr (hbusy k)
    rw [List.count_append, hnone, Nat.zero_add, List.count_cons, List.count_cons, ih]
    simp

lemma Rounds.pairwise (h : Rounds settled steps) :
    steps.Pairwise fun earlier later => ∀ k, earlier = .settle k → Spares k later := by
  induction h with
  | done => exact .nil
  | @round p later busy more hbusy hspared hmore ih =>
    have hfirst : ∀ step ∈ busy, ∀ other k, step = .settle k → Spares k other := by
      rintro _ hstep other k rfl
      exact absurd hstep (hbusy k)
    refine List.pairwise_append.mpr ⟨List.pairwise_of_forall_mem_list fun step hstep other _ =>
      hfirst step hstep other, List.pairwise_cons.mpr ⟨?_, ih⟩, fun step hstep other _ =>
      hfirst step hstep other⟩
    rintro other hother _ ⟨⟩
    exact hspared other hother

lemma Rounds.spared (h : Rounds settled (before ++ .settle k :: more)) :
    ∀ step ∈ more, Spares k step := by
  obtain ⟨-, hbehind, -⟩ := List.pairwise_append.mp h.pairwise
  intro step hstep
  exact (List.pairwise_cons.mp hbehind).1 step hstep k rfl

end Microworlds.Proofs

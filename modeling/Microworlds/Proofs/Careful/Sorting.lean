import Microworlds.Algorithm.Sort
import Microworlds.DataStructure.Heap
import Microworlds.Proofs.Careful.Machine

/-!
# Sorting and rising by positions

The sorts and the heap as loops over positions of one list, whose values change places. The loops come
to the same lists and the same steps as the recursions on lists, and no position is outside of the
list. What carries this is where the recursion stands in the whole list: behind what it has left behind
and before what it has put into its final place.
-/

namespace Microworlds.Proofs

open Algorithm DataStructure

/-- A list that is rearranged, and the steps so far. -/
structure Work where
  values : List Int64
  steps : List Step

namespace Careful

variable {ε : Type}

def showStep (work : Work) (step : Step) : Work := { work with steps := work.steps ++ [step] }

/-! ### Loops -/

/-- Compares the value at a position with the next one. -/
def bubbleCompare (j : Nat) (work : Work) : Careful ε Work := do
  let next ← increase work.values.length j
  let work := showStep work (.compare j next)
  if (← read work.values next) < (← read work.values j) then
    return ⟨← swap work.values j next, work.steps ++ [.swap j next]⟩
  else return work

def bubbleRound (length i : Nat) (work : Work) : Careful ε Work := do
  let last ← decrease (← decrease length i) 1
  return showStep (← between 0 last bubbleCompare work) (.settle last)

def bubbleSort (values : List Int64) : Careful ε Work := do
  let length := values.length
  let work ← between 0 (length - 1) (bubbleRound length) ⟨values, []⟩
  return if 0 < length then showStep work (.settle 0) else work

/-- Compares the least value so far, which is given by its position, with the one at a position. -/
def selectionCompare (values : List Int64) (j : Nat) (found : Nat × List Step) :
    Careful ε (Nat × List Step) := do
  let (position, steps) := found
  let smaller := (← read values j) < (← read values position)
  return (if smaller then j else position, steps ++ [.compare position j])

def selectionRound (length i : Nat) (work : Work) : Careful ε Work := do
  let start ← increase length i
  let (found, steps) ← between start length (selectionCompare work.values) (i, work.steps)
  let work ← if found = i then pure ⟨work.values, steps⟩
    else do pure ⟨← swap work.values i found, steps ++ [.swap i found]⟩
  return showStep work (.settle i)

def selectionSort (values : List Int64) : Careful ε Work := do
  let length := values.length
  let work ← between 0 (length - 1) (selectionRound length) ⟨values, []⟩
  if 0 < length then return showStep work (.settle (← decrease length 1)) else return work

/-- Lets the value at a position rise. The first number bounds how often it does. -/
def climb : Nat → Nat → Work → Careful ε Work
  | bound, child, work =>
    if child = 0 then .ok work
    else
      match bound with
      | 0 => fail .endless
      | bound + 1 => do
        let above := (← decrease child 1) / 2
        if (← read work.values child) ≤ (← read work.values above) then return work
        else
          let values ← swap work.values above child
          climb bound above ⟨values, work.steps ++ [.heapSwap child above]⟩

def heapPush (values : List Int64) (value : Int64) : Careful ε Work := do
  let values := values ++ [value]
  climb values.length (← decrease values.length 1) ⟨values, []⟩

end Careful

open Careful

variable {ε : Type}

/-! ### Bubble sort -/

lemma swap_neighbours (front back : List Int64) (x y : Int64) :
    (swap (front ++ x :: y :: back) front.length (front.length + 1) : Careful ε (List Int64)) =
      .ok (front ++ y :: x :: back) := by
  have hx : (front ++ x :: y :: back)[front.length]? = some x := by simp
  have hy : (front ++ x :: y :: back)[front.length + 1]? = some y := by simp
  rw [swap_of_some hx hy]
  simp

lemma bubbleCompare_eq (front back : List Int64) (x y : Int64) (steps : List Step) :
    (bubbleCompare front.length ⟨front ++ x :: y :: back, steps⟩ : Careful ε Work) =
      .ok (if y < x then
          ⟨front ++ y :: x :: back,
            steps ++ [.compare front.length (front.length + 1), .swap front.length (front.length + 1)]⟩
        else ⟨front ++ x :: y :: back, steps ++ [.compare front.length (front.length + 1)]⟩) := by
  have hlt : front.length < (front ++ x :: y :: back).length := by simp
  have hx : (front ++ x :: y :: back)[front.length]? = some x := by simp
  have hy : (front ++ x :: y :: back)[front.length + 1]? = some y := by simp
  unfold bubbleCompare
  simp only [increase_of_lt hlt, showStep, bind, Except.bind, read_of_some hx, read_of_some hy,
    swap_neighbours, pure, Except.pure]
  split <;> simp

lemma each_bubbleCompare (front rest back : List Int64) (held : Int64) (steps : List Step) :
    (each bubbleCompare front.length rest.length ⟨front ++ held :: (rest ++ back), steps⟩ :
        Careful ε Work) =
      .ok ⟨front ++ ((carry front.length held rest).1 ++ (carry front.length held rest).2.1 :: back),
        steps ++ (carry front.length held rest).2.2⟩ := by
  induction rest generalizing front held steps with
  | nil => simp [each, carry]
  | cons y rest ih =>
    have hlength (x : Int64) : front.length + 1 = (front ++ [x]).length := by simp
    rw [List.length_cons, each, List.cons_append, bubbleCompare_eq, carry]
    split
    · have hnext := ih (front ++ [y]) held
        (steps ++ [.compare front.length (front.length + 1), .swap front.length (front.length + 1)])
      simp only [← hlength, List.append_assoc, List.singleton_append] at hnext
      simpa [bind, Except.bind] using hnext
    · have hnext := ih (front ++ [held]) y (steps ++ [.compare front.length (front.length + 1)])
      simp only [← hlength, List.append_assoc, List.singleton_append] at hnext
      simpa [bind, Except.bind] using hnext

lemma length_carry (j : Nat) (held : Int64) (rest : List Int64) :
    (carry j held rest).1.length = rest.length := by
  induction rest generalizing j held with
  | nil => rfl
  | cons y rest ih =>
    rw [carry]
    split <;> simp [ih]

lemma each_bubbleRound (last i : Nat) (front back : List Int64) (steps : List Step)
    (hfront : front.length = last + 1) :
    ∃ work : Work,
      (each (bubbleRound (i + (last + 1))) i last ⟨front ++ back, steps⟩ : Careful ε Work) = .ok work ∧
        work.values = (bubble (last + 1) front).1 ++ back ∧
        work.steps ++ [.settle 0] = steps ++ (bubble (last + 1) front).2 := by
  induction last generalizing i front back steps with
  | zero =>
    obtain ⟨x, rfl⟩ := List.length_eq_one_iff.1 hfront
    exact ⟨_, rfl, by simp [bubble, carry], by simp [bubble, carry]⟩
  | succ last ih =>
    match front, hfront with
    | x :: rest, hfront =>
      have hrest : rest.length = last + 1 := Nat.succ_inj.1 hfront
      have hround : (bubbleRound (i + (last + 1 + 1)) i ⟨x :: rest ++ back, steps⟩ : Careful ε Work) =
          .ok ⟨(carry 0 x rest).1 ++ (carry 0 x rest).2.1 :: back,
            steps ++ (carry 0 x rest).2.2 ++ [.settle (last + 1)]⟩ := by
        have hpass := each_bubbleCompare (ε := ε) [] rest back x steps
        have hlast : i + (last + 1 + 1) - i - 1 = last + 1 := by omega
        rw [hrest] at hpass
        unfold bubbleRound
        rw [decrease_of_le (by omega)]
        change (do
          let last ← decrease (i + (last + 1 + 1) - i) 1
          return showStep (← between 0 last bubbleCompare _) (.settle last) : Careful ε Work) = _
        rw [decrease_of_le (by omega), hlast]
        change (do return showStep (← each bubbleCompare 0 (last + 1) _) _ : Careful ε Work) = _
        exact congrArg (fun m => do return showStep (← m) (.settle (last + 1))) hpass
      have hlength : i + (last + 1 + 1) = i + 1 + (last + 1) := by omega
      obtain ⟨work, hwork, hvalues, hsteps⟩ := ih (i + 1) (carry 0 x rest).1
        ((carry 0 x rest).2.1 :: back) (steps ++ (carry 0 x rest).2.2 ++ [.settle (last + 1)])
        (by rw [length_carry, hrest])
      refine ⟨work, ?_, ?_, ?_⟩
      · rw [each, hround, hlength]
        exact hwork
      · rw [hvalues, bubble]
        simp
      · rw [hsteps, bubble]
        simp

lemma bubbleSort_eq (values : List Int64) :
    (Careful.bubbleSort values : Careful ε Work) =
      .ok ⟨(Algorithm.bubbleSort values).1, (Algorithm.bubbleSort values).2⟩ := by
  match values with
  | [] => rfl
  | x :: rest =>
    obtain ⟨⟨sorted, steps⟩, hwork, hvalues, hsteps⟩ :=
      each_bubbleRound (ε := ε) rest.length 0 (x :: rest) [] [] rfl
    rw [List.append_nil] at hwork hvalues
    unfold Careful.bubbleSort
    rw [Nat.zero_add] at hwork
    change (do
      let work ← each (bubbleRound (rest.length + 1)) 0 rest.length ⟨x :: rest, []⟩
      return showStep work (.settle 0) : Careful ε Work) = _
    rw [hwork]
    exact congrArg Except.ok (Work.mk.injEq .. ▸ ⟨hvalues, hsteps⟩)

/-- There is no round on the empty list, for it would count below zero. -/
example : (bubbleRound 0 0 ⟨[], []⟩ : Careful Empty Work) = fail .underflow := rfl

/-! ### Selection sort -/

/-- The search for the least value by positions is the one along a list, and it finds the value and a
position of it. -/
lemma each_selectionCompare {values rest : List Int64} {position j : Nat} {value : Int64}
    (hrest : values.drop j = rest) (hvalue : values[position]? = some value) (steps : List Step) :
    (each (selectionCompare values) j rest.length (position, steps) : Careful ε (Nat × List Step)) =
        .ok ((least position value j rest).1, steps ++ (least position value j rest).2.2) ∧
      values[(least position value j rest).1]? = some (least position value j rest).2.1 ∧
      ((least position value j rest).1 = position ∨ j ≤ (least position value j rest).1) := by
  induction rest generalizing position j value steps with
  | nil => exact ⟨by simp [each, least], hvalue, .inl rfl⟩
  | cons y rest ih =>
    have hy : values[j]? = some y := by
      rw [← List.head?_drop, hrest]
      rfl
    have hbehind : values.drop (j + 1) = rest := by
      rw [← List.tail_drop, hrest]
      rfl
    have hcompare : (selectionCompare values j (position, steps) : Careful ε (Nat × List Step)) =
        .ok (if y < value then j else position, steps ++ [.compare position j]) := by
      unfold selectionCompare
      simp only [read_of_some hy, read_of_some hvalue, bind, Except.bind, pure, Except.pure]
    rw [List.length_cons, each, hcompare, least]
    by_cases hsmaller : y < value
    · obtain ⟨hrun, hfound, hplace⟩ := ih hbehind hy (steps ++ [.compare position j])
      simp only [hsmaller, if_true]
      refine ⟨?_, hfound, .inr (by omega)⟩
      change each (selectionCompare values) (j + 1) rest.length _ = _
      rw [hrun, List.append_assoc]
      rfl
    · obtain ⟨hrun, hfound, hplace⟩ := ih hbehind hvalue (steps ++ [.compare position j])
      simp only [hsmaller, if_false]
      refine ⟨?_, hfound, hplace.imp_right (by omega)⟩
      change each (selectionCompare values) (j + 1) rest.length _ = _
      rw [hrun, List.append_assoc]
      rfl

lemma swap_least (front rest : List Int64) (x smallest : Int64) {found : Nat}
    (hfound : (front ++ x :: rest)[found]? = some smallest) (hbehind : front.length + 1 ≤ found) :
    (swap (front ++ x :: rest) front.length found : Careful ε (List Int64)) =
      .ok (front ++ smallest :: rest.set (found - (front.length + 1)) x) := by
  have hx : (front ++ x :: rest)[front.length]? = some x := by simp
  obtain ⟨offset, rfl⟩ := Nat.exists_eq_add_of_le hbehind
  have hoffset : front.length + 1 + offset - front.length = offset + 1 := by omega
  have hback : ¬ front.length + 1 + offset < front.length := by omega
  rw [swap_of_some hx hfound, Nat.add_sub_cancel_left]
  simp [List.set_append, hoffset, hback]

lemma selectionRound_eq (front rest : List Int64) (x : Int64) (steps : List Step) {length : Nat}
    (hlength : length = (front ++ x :: rest).length) :
    ∃ smallest behind shown, behind.length = rest.length ∧
      (∀ count, selection (count + 1) front.length (x :: rest) =
        (smallest :: (selection count (front.length + 1) behind).1,
          shown ++ (selection count (front.length + 1) behind).2)) ∧
      (selectionRound length front.length ⟨front ++ x :: rest, steps⟩ : Careful ε Work) =
        .ok ⟨front ++ smallest :: behind, steps ++ shown⟩ := by
  have hrest : (front ++ x :: rest).drop (front.length + 1) = rest := by simp
  have hx : (front ++ x :: rest)[front.length]? = some x := by simp
  have hcount : length - (front.length + 1) = rest.length := by
    rw [hlength, List.length_append, List.length_cons]
    omega
  have hstart : front.length < length := by simp [hlength]
  obtain ⟨hrun, hfound, hplace⟩ := each_selectionCompare (ε := ε) hrest hx steps
  by_cases hsame : (least front.length x (front.length + 1) rest).1 = front.length
  · rw [hsame, hx] at hfound
    have hsmallest := (Option.some.inj hfound).symm
    refine ⟨x, rest, (least front.length x (front.length + 1) rest).2.2 ++ [.settle front.length],
      rfl, fun count => ?_, ?_⟩
    · rw [selection]
      simp [hsame, hsmallest]
    · unfold selectionRound
      simp only [increase_of_lt hstart, between, hcount, hrun, hsame, bind, Except.bind, if_true,
        pure, Except.pure, showStep, List.append_assoc]
  · have hbehind := hplace.resolve_left hsame
    refine ⟨(least front.length x (front.length + 1) rest).2.1,
      rest.set ((least front.length x (front.length + 1) rest).1 - (front.length + 1)) x,
      (least front.length x (front.length + 1) rest).2.2 ++
        [.swap front.length (least front.length x (front.length + 1) rest).1, .settle front.length],
      List.length_set, fun count => ?_, ?_⟩
    · rw [selection]
      simp [hsame]
    · unfold selectionRound
      simp only [increase_of_lt hstart, between, hcount, hrun, hsame, bind, Except.bind, if_false,
        swap_least front rest x _ hfound hbehind, pure, Except.pure, showStep, List.append_assoc,
        List.singleton_append]

lemma each_selectionRound (last : Nat) (front back : List Int64) (steps : List Step)
    (hback : back.length = last + 1) {length : Nat} (hlength : length = (front ++ back).length) :
    ∃ work : Work,
      (each (selectionRound length) front.length last ⟨front ++ back, steps⟩ : Careful ε Work) =
          .ok work ∧
        work.values = front ++ (selection (last + 1) front.length back).1 ∧
        work.steps ++ [.settle (front.length + last)] =
          steps ++ (selection (last + 1) front.length back).2 := by
  induction last generalizing front back steps with
  | zero =>
    obtain ⟨x, rfl⟩ := List.length_eq_one_iff.1 hback
    exact ⟨_, rfl, by simp [selection, least], by simp [selection, least]⟩
  | succ last ih =>
    match back, hback with
    | x :: rest, hback =>
      obtain ⟨smallest, behind, shown, hbehind, hselection, hround⟩ :=
        selectionRound_eq (ε := ε) front rest x steps hlength
      have hnext : (front ++ [smallest]).length = front.length + 1 := by simp
      have hrest : behind.length = last + 1 := hbehind.trans (Nat.succ_inj.1 hback)
      obtain ⟨work, hwork, hvalues, hsteps⟩ := ih (front ++ [smallest]) behind (steps ++ shown) hrest
        (by simp [hlength, hbehind])
      rw [hnext] at hwork hvalues hsteps
      rw [List.append_assoc, List.singleton_append] at hwork
      refine ⟨work, ?_, ?_, ?_⟩
      · rw [each, hround]
        exact hwork
      · rw [hvalues, hselection, List.append_assoc]
        rfl
      · rw [hselection, ← List.append_assoc, ← hsteps]
        congr 3
        omega

lemma selectionSort_eq (values : List Int64) :
    (Careful.selectionSort values : Careful ε Work) =
      .ok ⟨(Algorithm.selectionSort values).1, (Algorithm.selectionSort values).2⟩ := by
  match values with
  | [] => rfl
  | x :: rest =>
    obtain ⟨⟨sorted, steps⟩, hwork, hvalues, hsteps⟩ :=
      each_selectionRound (ε := ε) rest.length [] (x :: rest) [] rfl rfl
    simp only [List.length_nil, Nat.zero_add, List.nil_append] at hwork hvalues hsteps
    have hlast : (decrease (rest.length + 1) 1 : Careful ε Nat) = .ok rest.length :=
      decrease_of_le (Nat.le_add_left 1 rest.length)
    unfold Careful.selectionSort Algorithm.selectionSort
    simp only [between, List.length_cons, Nat.add_sub_cancel, Nat.sub_zero, Nat.zero_lt_succ, if_true]
    rw [List.length_cons] at hwork
    simp only [hwork, hlast, bind, Except.bind, pure, Except.pure, showStep, hvalues, hsteps]

/-! ### Heaps -/

/-- A value rises by positions as it does in the recursion. The bound is as far away as the top. -/
lemma climb_eq {bound child : Nat} {values : List Int64} (hbound : child ≤ bound)
    (hchild : child < values.length) (steps : List Step) :
    (climb bound child ⟨values, steps⟩ : Careful ε Work) =
      .ok ⟨(siftUp values child).1, steps ++ (siftUp values child).2⟩ := by
  induction child using Nat.strongRecOn generalizing bound values steps with
  | ind child ih =>
    match child, bound, hbound with
    | 0, bound, _ =>
      unfold climb
      rw [if_pos rfl, siftUp, List.append_nil]
    | below + 1, bound + 1, hbound =>
      have habove : below / 2 < values.length := by omega
      have hx : values[below / 2]? = some values[below / 2] := List.getElem?_eq_getElem habove
      have hy : values[below + 1]? = some values[below + 1] := List.getElem?_eq_getElem hchild
      rw [climb, siftUp]
      simp only [Nat.succ_ne_zero, if_false, decrease_of_le (Nat.le_add_left 1 below),
        Nat.add_sub_cancel, bind, Except.bind, read_of_some hx, read_of_some hy, swap_of_some hx hy,
        hx, hy]
      split
      · simp [pure, Except.pure]
      · have hrise : below / 2 < below + 1 := by omega
        have hexchange : exchange values (below / 2) (below + 1) =
            (values.set (below / 2) values[below + 1]).set (below + 1) values[below / 2] := by
          unfold exchange
          simp only [hx, hy]
        rw [hexchange, ih (below / 2) hrise (by omega) (by simpa using habove)]
        simp

lemma heapPush_eq (values : List Int64) (value : Int64) :
    (Careful.heapPush values value : Careful ε Work) =
      .ok ⟨(DataStructure.heapPush values value).1, (DataStructure.heapPush values value).2⟩ := by
  have hlength : (values ++ [value]).length = values.length + 1 := by simp
  unfold Careful.heapPush DataStructure.heapPush
  simp only [hlength, decrease_of_le (Nat.le_add_left 1 values.length)]
  exact climb_eq (Nat.le_succ _) (by simp) []

end Microworlds.Proofs

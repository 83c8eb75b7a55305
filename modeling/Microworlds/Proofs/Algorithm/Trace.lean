import Microworlds.Proofs.Algorithm.Sorting
import Microworlds.Proofs.Animation
import Microworlds.Proofs.Careful.Commands

/-!
# The steps of a sort

Each round of a sort works in one part of the working copy: bubble sort in front of the positions that are
settled, selection sort behind them. So a settled position is never moved again, and what it holds then is
what the sorted list holds there.
-/

namespace Microworlds.Proofs

open Algorithm
open DataStructure (exchange)

variable {values : List Int64}

/-! ### Counting steps -/

lemma comparisons_append (before more : List Step) :
    comparisons (before ++ more) = comparisons before + comparisons more := List.countP_append

lemma swaps_append (before more : List Step) : swaps (before ++ more) = swaps before + swaps more :=
  List.countP_append

lemma counted_comparisons {steps : List Step}
    (h : ∀ step ∈ steps, ∃ left right, step = .compare left right) :
    comparisons steps = steps.length ∧ swaps steps = 0 := by
  refine ⟨List.countP_eq_length.mpr fun step hstep => ?_, List.countP_eq_zero.mpr fun step hstep => ?_⟩
  · obtain ⟨left, right, rfl⟩ := h step hstep
    rfl
  · obtain ⟨left, right, rfl⟩ := h step hstep
    exact Bool.false_ne_true

/-! ### Bubble sort -/

/-- What is carried along a part of a working copy changes places with smaller values. -/
lemma carry_leads (front rest back : List Int64) (held : Int64) :
    Leads (front ++ held :: (rest ++ back)) (carry front.length held rest).2.2
      (front ++ ((carry front.length held rest).1 ++ (carry front.length held rest).2.1 :: back)) := by
  induction rest generalizing front held with
  | nil => exact .done _
  | cons y rest ih =>
    have hlength (x : Int64) : (front ++ [x]).length = front.length + 1 := by simp
    have hcompare : Showable (front ++ held :: (y :: rest ++ back))
        (.compare front.length (front.length + 1)) := .compare (by simp) (by simp)
    rw [carry]
    split
    · next hless =>
      have hswap : Showable (front ++ held :: y :: (rest ++ back))
          (.swap front.length (front.length + 1)) :=
        .swap (Nat.lt_succ_self _) (by simp) (by simp) hless
      have hexchange : exchange (front ++ held :: y :: (rest ++ back)) front.length (front.length + 1) =
          front ++ y :: held :: (rest ++ back) := exchange_between front [] (rest ++ back) held y
      have hnext := ih (front ++ [y]) held
      simp only [hlength, List.append_assoc, List.singleton_append] at hnext
      rw [← hexchange] at hnext
      exact .step hcompare (.step hswap hnext)
    · have hnext := ih (front ++ [held]) y
      simp only [hlength, List.append_assoc, List.singleton_append] at hnext
      exact .step hcompare hnext

lemma settle_not_mem_carry (j : Nat) (held : Int64) (rest : List Int64) (p : Nat) :
    .settle p ∉ (carry j held rest).2.2 := by
  induction rest generalizing j held with
  | nil => exact List.not_mem_nil
  | cons y rest ih =>
    rw [carry]
    split <;> simp [ih]

lemma bubble_leads (length : Nat) (back : List Int64) (hlength : values.length = length) :
    Leads (values ++ back) (bubble length values).2 ((bubble length values).1 ++ back) := by
  induction length generalizing values back with
  | zero =>
    rw [List.length_eq_zero_iff.mp hlength]
    exact .done _
  | succ last ih =>
    match values, hlength with
    | x :: rest, hlength =>
      have hfront : (carry 0 x rest).1.length = last :=
        (length_carry 0 x rest).trans (Nat.succ_inj.mp hlength)
      have hsettle : last < ((carry 0 x rest).1 ++ (carry 0 x rest).2.1 :: back).length := by
        rw [List.length_append, List.length_cons, hfront]
        omega
      have hmore := ih ((carry 0 x rest).2.1 :: back) hfront
      rw [bubble, List.append_assoc]
      exact (carry_leads [] rest back x).append (.step (.settle hsettle) hmore)

lemma bubble_rounds (length : Nat) (hlength : values.length = length) :
    Rounds (List.range length).reverse (bubble length values).2 := by
  induction length generalizing values with
  | zero =>
    rw [List.length_eq_zero_iff.mp hlength]
    exact .done
  | succ last ih =>
    match values, hlength with
    | x :: rest, hlength =>
      have hfront : (carry 0 x rest).1.length = last :=
        (length_carry 0 x rest).trans (Nat.succ_inj.mp hlength)
      rw [bubble, List.range_succ, List.reverse_append]
      refine .round (settle_not_mem_carry 0 x rest) ?_ (ih hfront)
      rintro _ hswap left right rfl
      -- the later rounds work on the front alone
      obtain ⟨horder, hright⟩ := (bubble_leads last [] hfront).swap_lt hswap
      rw [List.append_nil, hfront] at hright
      omega

/-! ### Selection sort -/

lemma least_comparisons {position j : Nat} (value : Int64) (rest : List Int64) (hposition : position < j) :
    ∀ step ∈ (least position value j rest).2.2, ∃ left right, step = .compare left right ∧
      left < j + rest.length ∧ right < j + rest.length := by
  induction rest generalizing position value j with
  | nil => simp [least]
  | cons y rest ih =>
    rw [least, List.length_cons]
    refine List.forall_mem_cons.mpr ⟨⟨position, j, rfl, by omega, by omega⟩, ?_⟩
    have hlength : j + (rest.length + 1) = j + 1 + rest.length := by omega
    rw [hlength]
    split
    · exact ih y (Nat.lt_succ_self j)
    · exact ih value (Nat.lt_succ_of_lt hposition)

lemma least_lt (position : Nat) (value : Int64) (j : Nat) (rest : List Int64) :
    ((least position value j rest).1 = position ∧ (least position value j rest).2.1 = value) ∨
      (least position value j rest).2.1 < value := by
  induction rest generalizing position value j with
  | nil => exact .inl ⟨rfl, rfl⟩
  | cons y rest ih =>
    rw [least]
    by_cases hsmaller : y < value
    · simp only [hsmaller, if_true]
      obtain ⟨-, hvalue⟩ | hless := ih j y (j + 1)
      · rw [hvalue]
        exact .inr hsmaller
      · exact .inr (Int64.lt_trans hless hsmaller)
    · simp only [hsmaller, if_false]
      exact ih position value (j + 1)

lemma length_least (position : Nat) (value : Int64) (j : Nat) (rest : List Int64) :
    (least position value j rest).2.2.length = rest.length := by
  induction rest generalizing position value j with
  | nil => rfl
  | cons y rest ih =>
    rw [least, List.length_cons, List.length_cons]
    split <;> rw [ih]

/-- What the steps of a round of selection sort do before the position behind the front is settled. -/
structure Chosen (front : List Int64) (x : Int64) (rest : List Int64) (smallest : Int64)
    (behind : List Int64) (busy : List Step) : Prop where
  leads : Leads (front ++ x :: rest) busy (front ++ smallest :: behind)
  unsettled : ∀ p, .settle p ∉ busy
  swap_left : ∀ left right, .swap left right ∈ busy → left = front.length
  comparisons_eq : comparisons busy = rest.length
  swaps_le : swaps busy ≤ min 1 rest.length

lemma Chosen.of_swapped {front rest behind : List Int64} {x smallest : Int64} {compared swapped : List Step}
    (hcompared : ∀ step ∈ compared, ∃ left right, step = .compare left right ∧
      left < (front ++ x :: rest).length ∧ right < (front ++ x :: rest).length)
    (hcount : compared.length = rest.length)
    (hswapped : ∀ step ∈ swapped, ∃ right, step = .swap front.length right)
    (hlength : swapped.length ≤ min 1 rest.length)
    (hleads : Leads (front ++ x :: rest) swapped (front ++ smallest :: behind)) :
    Chosen front x rest smallest behind (compared ++ swapped) := by
  obtain ⟨hcomparisons, hnone⟩ := counted_comparisons fun step hstep =>
    let ⟨left, right, hcompare, _⟩ := hcompared step hstep
    ⟨left, right, hcompare⟩
  refine ⟨(leads_comparisons hcompared).append hleads, fun p hsettle => ?_, fun left right hswap => ?_,
    ?_, ?_⟩
  · obtain hearly | hlate := List.mem_append.mp hsettle
    · obtain ⟨_, _, ⟨⟩, _⟩ := hcompared _ hearly
    · obtain ⟨_, ⟨⟩⟩ := hswapped _ hlate
  · obtain hearly | hlate := List.mem_append.mp hswap
    · obtain ⟨_, _, ⟨⟩, _⟩ := hcompared _ hearly
    · obtain ⟨_, ⟨⟩⟩ := hswapped _ hlate
      rfl
  · have hother : comparisons swapped = 0 := List.countP_eq_zero.mpr fun step hstep => by
      obtain ⟨right, rfl⟩ := hswapped step hstep
      exact Bool.false_ne_true
    rw [comparisons_append, hcomparisons, hcount, hother]
    rfl
  · rw [swaps_append, hnone, Nat.zero_add]
    exact List.countP_le_length.trans hlength

lemma selection_chosen (front : List Int64) (x : Int64) (rest : List Int64) :
    ∃ smallest behind busy, Chosen front x rest smallest behind busy ∧
      ∀ length, selection (length + 1) front.length (x :: rest) =
        (smallest :: (selection length (front.length + 1) behind).1,
          busy ++ .settle front.length :: (selection length (front.length + 1) behind).2) := by
  have hx : (front ++ x :: rest)[front.length]? = some x := by simp
  have hlength : (front ++ x :: rest).length = front.length + 1 + rest.length := by simp; omega
  have hcompared := least_comparisons x rest (Nat.lt_succ_self front.length)
  have hcount := length_least front.length x (front.length + 1) rest
  have hplace := least_found front.length x (front.length + 1) rest
  have hvalue := least_lt front.length x (front.length + 1) rest
  obtain ⟨found, smallest, compared, hleast⟩ :
      ∃ found smallest compared, least front.length x (front.length + 1) rest =
        (found, smallest, compared) := ⟨_, _, _, rfl⟩
  simp only [hleast, ← hlength] at hcompared hcount hplace hvalue
  obtain ⟨rfl, rfl⟩ | hless := hvalue
  · refine ⟨smallest, rest, compared ++ [],
      .of_swapped hcompared hcount (List.forall_mem_nil _) (Nat.zero_le _) (.done _), fun length => ?_⟩
    rw [selection]
    simp [hleast]
  obtain ⟨-, rfl⟩ | ⟨k, rfl, hk⟩ := hplace
  · exact absurd hless Int64.lt_irrefl
  have hsmallest : (front ++ x :: rest)[front.length + 1 + k]? = some smallest :=
    (getElem?_behind front rest x k).trans hk
  have hexchange := exchange_behind front x hk
  have horder : front.length < front.length + 1 + k := by omega
  have hone : 1 ≤ min 1 rest.length := by
    obtain ⟨hlength, -⟩ := List.getElem?_eq_some_iff.mp hk
    omega
  have hexchanged : Leads (front ++ x :: rest) [.swap front.length (front.length + 1 + k)]
      (front ++ smallest :: rest.set k x) :=
    .step (.swap horder hx hsmallest hless) (hexchange ▸ .done _)
  refine ⟨smallest, rest.set k x, compared ++ [.swap front.length (front.length + 1 + k)],
    .of_swapped hcompared hcount (List.forall_mem_singleton.mpr ⟨_, rfl⟩) hone hexchanged,
    fun length => ?_⟩
  have helsewhere : front.length + 1 + k ≠ front.length := by omega
  rw [selection]
  simp [hleast, helsewhere]

/-- Selection sort behind a front, round by round: its steps, and what comes behind the front. -/
inductive Selects : List Int64 → List Int64 → List Step → List Int64 → Prop
  | done (front : List Int64) : Selects front [] [] []
  | round {front rest behind result : List Int64} {x smallest : Int64} {busy more : List Step}
      (hchosen : Chosen front x rest smallest behind busy)
      (hmore : Selects (front ++ [smallest]) behind more result) :
    Selects front (x :: rest) (busy ++ .settle front.length :: more) (smallest :: result)

lemma Chosen.length_eq {front rest behind : List Int64} {x smallest : Int64} {busy : List Step}
    (h : Chosen front x rest smallest behind busy) : behind.length = rest.length := by
  have hlength := h.leads.length_eq
  simp only [List.length_append, List.length_cons] at hlength
  omega

lemma selection_selects (length : Nat) (front : List Int64) (hlength : values.length = length) :
    Selects front values (selection length front.length values).2
      (selection length front.length values).1 := by
  induction length generalizing values front with
  | zero =>
    rw [List.length_eq_zero_iff.mp hlength]
    exact .done front
  | succ length ih =>
    match values, hlength with
    | x :: rest, hlength =>
      obtain ⟨smallest, behind, busy, hchosen, hselection⟩ := selection_chosen front x rest
      have hmore := ih (front ++ [smallest]) (hchosen.length_eq.trans (Nat.succ_inj.mp hlength))
      rw [List.length_append, List.length_singleton] at hmore
      rw [hselection length]
      exact .round hchosen hmore

variable {front result : List Int64} {steps : List Step}

lemma Selects.leads (h : Selects front values steps result) :
    Leads (front ++ values) steps (front ++ result) := by
  induction h with
  | done => exact .done _
  | @round front rest behind result x smallest busy more hchosen hmore ih =>
    simp only [List.append_assoc, List.singleton_append] at ih
    exact hchosen.leads.append (.step (.settle (by simp)) ih)

lemma Selects.le_left (h : Selects front values steps result) :
    ∀ left right, .swap left right ∈ steps → front.length ≤ left := by
  induction h with
  | done => simp
  | @round front rest behind result x smallest busy more hchosen hmore ih =>
    intro left right hswap
    simp only [List.mem_append, List.mem_cons, reduceCtorEq, false_or] at hswap
    obtain hbusy | hlater := hswap
    · exact Nat.le_of_eq (hchosen.swap_left left right hbusy).symm
    · have hbehind := ih left right hlater
      rw [List.length_append, List.length_singleton] at hbehind
      omega

lemma Selects.rounds (h : Selects front values steps result) :
    Rounds (List.range' front.length values.length) steps := by
  induction h with
  | done => exact .done
  | @round front rest behind result x smallest busy more hchosen hmore ih =>
    rw [List.length_append, List.length_singleton, hchosen.length_eq] at ih
    rw [List.length_cons, List.range'_succ]
    refine .round hchosen.unsettled ?_ ih
    rintro _ hswap left right rfl
    -- the later rounds work behind the position that is settled
    have hbehind := hmore.le_left left right hswap
    obtain ⟨horder, -⟩ := hmore.leads.swap_lt hswap
    rw [List.length_append, List.length_singleton] at hbehind
    omega

/-! ### Both sorts -/

lemma sorted_leads (method : SortMethod) (values : List Int64) :
    Leads values (sorted method values).2 (sorted method values).1 := by
  cases method with
  | bubble =>
    have hleads := bubble_leads values.length [] (Eq.refl values.length)
    rwa [List.append_nil, List.append_nil] at hleads
  | selection => exact (selection_selects values.length [] rfl).leads

lemma sorted_rounds (method : SortMethod) (values : List Int64) :
    ∃ settled, settled.Perm (List.range values.length) ∧ Rounds settled (sorted method values).2 := by
  cases method with
  | bubble => exact ⟨_, List.reverse_perm _, bubble_rounds values.length rfl⟩
  | selection =>
    refine ⟨_, ?_, (selection_selects values.length [] rfl).rounds⟩
    rw [List.range_eq_range']
    exact .refl _

/-- The steps of a sort are a faithful animation of it, with a working copy of the list that is sorted.
The loops over positions come to the same steps. When all steps have been shown, the copy is the sorted
list. Each step fits the copy at its moment: its positions are positions of the copy, and a swap is one of
a value in front with a smaller one behind it. Every position is settled once, and then it holds the value
that it holds in the sorted list, and no later swap moves it. -/
theorem sort_shown_faithfully (method : SortMethod) (values : List Int64) :
    let result := (sorted method values).1
    let steps := (sorted method values).2
    (Careful.sorted method values : Careful Empty Work) = .ok ⟨result, steps⟩ ∧
    played values steps = result ∧
    (∀ k < values.length, steps.count (.settle k) = 1) ∧
    ∀ before step later, steps = before ++ step :: later →
      let work := played values before
      work.length = values.length ∧ Showable work step ∧
      ∀ k, step = .settle k → work[k]? = result[k]? ∧
        ∀ left right, .swap left right ∈ later → left ≠ k ∧ right ≠ k := by
  intro result steps
  have hleads : Leads values steps result := sorted_leads method values
  obtain ⟨settled, hsettled, hrounds⟩ :
      ∃ settled, settled.Perm (List.range values.length) ∧ Rounds settled steps :=
    sorted_rounds method values
  refine ⟨sorted_eq method values, hleads.played_eq, fun k hk => ?_, fun before step later hsteps => ?_⟩
  · rw [hrounds.count_settle, hsettled.count_eq]
    exact List.count_eq_one_of_mem List.nodup_range (List.mem_range.mpr hk)
  · rw [hsteps] at hleads hrounds
    obtain ⟨hshowable, hmore⟩ := hleads.at_step
    refine ⟨length_played values before, hshowable, ?_⟩
    rintro k rfl
    have hspared := hrounds.spared
    exact ⟨(hmore.getElem?_eq hspared).symm, fun left right hswap => hspared _ hswap left right rfl⟩

/-- The steps of bubble sort on three values in falling order. -/
def fallingSteps : List Step :=
  [.compare 0 1, .swap 0 1, .compare 1 2, .swap 1 2, .settle 2, .compare 0 1, .swap 0 1, .settle 1,
    .settle 0]

theorem falling_values_shown :
    sorted .bubble [3, 2, 1] = ([1, 2, 3], fallingSteps) ∧ played [3, 2, 1] fallingSteps = [1, 2, 3] ∧
    fallingSteps.count (.settle 2) = 1 ∧ Showable [2, 3, 1] (.swap 1 2) ∧
    (played [3, 2, 1] (fallingSteps.take 4))[2]? = some 3 ∧ .swap 0 1 ∈ fallingSteps.drop 5 ∧
    (0 ≠ 2 ∧ 1 ≠ 2) := by
  obtain ⟨-, hplayed, honce, hmoment⟩ := sort_shown_faithfully .bubble [3, 2, 1]
  have hsorted : sorted .bubble [3, 2, 1] = ([1, 2, 3], fallingSteps) := by decide +kernel
  have hlater : .swap 0 1 ∈ fallingSteps.drop 5 := by decide
  rw [hsorted] at hplayed honce hmoment
  obtain ⟨-, hswap, -⟩ := hmoment (fallingSteps.take 3) (.swap 1 2) (fallingSteps.drop 4) rfl
  obtain ⟨-, -, hsettle⟩ := hmoment (fallingSteps.take 4) (.settle 2) (fallingSteps.drop 5) rfl
  obtain ⟨hfinal, hspared⟩ := hsettle 2 rfl
  exact ⟨hsorted, hplayed, honce 2 (by decide), hswap, hfinal, hlater, hspared 0 1 hlater⟩

end Microworlds.Proofs

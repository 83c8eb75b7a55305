import Microworlds.Proofs.Algorithm.Trace

/-!
# How many steps a sort takes

A sort compares every two positions once. A swap of two neighbours that stand in the wrong order takes away
one inversion, and a swap over a distance takes away one or more. A sorted list has none. So bubble sort
swaps as often as there are inversions, and selection sort not more often.
-/

namespace Microworlds.Proofs

open Algorithm
open DataStructure (exchange)

variable {values front result work after : List Int64} {steps : List Step} {x y : Int64}

/-- The pairs of positions whose values stand in the wrong order. -/
def inversions (values : List Int64) : Finset (Fin values.length × Fin values.length) :=
  Finset.univ.filter fun pair => pair.1 < pair.2 ∧ values[pair.2] < values[pair.1]

/-- The number of inversions along a list: each value has one with each smaller value behind it. -/
def disorder : List Int64 → Nat
  | [] => 0
  | x :: rest => rest.countP (· < x) + disorder rest

lemma sum_lt_eq_countP (x : Int64) (rest : List Int64) :
    (∑ j : Fin rest.length, if rest[j] < x then 1 else 0) = rest.countP (· < x) := by
  induction rest with
  | nil => rfl
  | cons y rest ih =>
    rw [List.countP_cons, ← ih, Nat.add_comm]
    refine (Fin.sum_univ_succ _).trans ?_
    by_cases hless : y < x <;> simp [hless]

lemma card_inversions (values : List Int64) : (inversions values).card = disorder values := by
  unfold inversions
  rw [Finset.card_filter, Fintype.sum_prod_type]
  induction values with
  | nil => rfl
  | cons x rest ih =>
    refine (Fin.sum_univ_succ _).trans ?_
    rw [disorder, ← ih, ← sum_lt_eq_countP]
    congr 1
    · refine (Fin.sum_univ_succ _).trans ?_
      simp
    · refine Finset.sum_congr rfl fun i _ => (Fin.sum_univ_succ _).trans ?_
      simp

/-! ### Swaps and inversions -/

lemma disorder_of_ascending (h : values.Pairwise (· ≤ ·)) : disorder values = 0 := by
  induction values with
  | nil => rfl
  | cons x rest ih =>
    obtain ⟨hfirst, hrest⟩ := List.pairwise_cons.mp h
    have hnone : rest.countP (· < x) = 0 := List.countP_eq_zero.mpr fun y hy => by
      simpa using hfirst y hy
    rw [disorder, hnone, ih hrest]

lemma disorder_middle (front back : List Int64) (y : Int64) :
    disorder (front ++ y :: back) =
      disorder (front ++ back) + front.countP (y < ·) + back.countP (· < y) := by
  induction front with
  | nil => simp [disorder, Nat.add_comm]
  | cons x front ih =>
    have hy : (front ++ y :: back).countP (· < x) =
        (front ++ back).countP (· < x) + if y < x then 1 else 0 := by
      simp only [List.countP_append, List.countP_cons, decide_eq_true_eq]
      omega
    simp only [List.cons_append, disorder, ih, hy, List.countP_cons, decide_eq_true_eq]
    omega

lemma disorder_front {as bs : List Int64} (h : as.Perm bs) (front : List Int64) :
    disorder (front ++ as) + disorder bs = disorder (front ++ bs) + disorder as := by
  induction front with
  | nil => exact Nat.add_comm _ _
  | cons x front ih =>
    have hcount : (front ++ as).countP (· < x) = (front ++ bs).countP (· < x) :=
      (h.append_left front).countP_eq _
    simp only [List.cons_append, disorder, hcount]
    omega

/-- A swap of two values takes away their own inversion, and it leaves or takes away those with the values
between them. -/
lemma disorder_swapped (front middle back : List Int64) (hless : y < x) :
    disorder (front ++ y :: (middle ++ x :: back)) + 1 +
        (middle.countP (· < x) + middle.countP (y < ·)) =
      disorder (front ++ x :: (middle ++ y :: back)) +
        (middle.countP (· < y) + middle.countP (x < ·)) := by
  have hperm : (y :: (middle ++ x :: back)).Perm (x :: (middle ++ y :: back)) := by
    have hy : (y :: (middle ++ x :: back)).Perm (y :: x :: (middle ++ back)) :=
      List.perm_middle.cons y
    have hx : (x :: (middle ++ y :: back)).Perm (x :: y :: (middle ++ back)) :=
      List.perm_middle.cons x
    exact hy.trans ((List.Perm.swap x y _).trans hx.symm)
  have hfront := disorder_front hperm front
  have hback : ¬ x < y := Int64.not_lt.mpr (Int64.le_of_lt hless)
  have hy := disorder_middle middle back y
  have hx := disorder_middle middle back x
  simp only [disorder, hx, hy, List.countP_append, List.countP_cons, decide_eq_true_eq, hless, hback,
    if_true, if_false] at hfront
  omega

lemma disorder_exchange {i j : Nat} (horder : i < j) (hx : work[i]? = some x) (hy : work[j]? = some y)
    (hless : y < x) :
    disorder (exchange work i j) + 1 ≤ disorder work ∧
      (j = i + 1 → disorder (exchange work i j) + 1 = disorder work) := by
  obtain ⟨front, middle, back, rfl, rfl, rfl⟩ := exists_between hx hy horder
  have hswapped := disorder_swapped front middle back hless
  have hbelow : middle.countP (· < y) ≤ middle.countP (· < x) :=
    List.countP_mono_left fun z _ hz => by
      simp only [decide_eq_true_eq] at hz ⊢
      exact Int64.lt_trans hz hless
  have habove : middle.countP (x < ·) ≤ middle.countP (y < ·) :=
    List.countP_mono_left fun z _ hz => by
      simp only [decide_eq_true_eq] at hz ⊢
      exact Int64.lt_trans hless hz
  rw [exchange_between]
  refine ⟨by omega, fun hnext => ?_⟩
  have hmiddle : middle = [] := List.length_eq_zero_iff.mp (by omega)
  subst hmiddle
  exact hswapped

lemma Showable.disorder_shown {step : Step} (h : Showable work step) :
    disorder (shown work step) + swaps [step] ≤ disorder work ∧
      ((∀ left right, step = .swap left right → right = left + 1) →
        disorder (shown work step) + swaps [step] = disorder work) := by
  cases h with
  | compare => exact ⟨Nat.le_refl _, fun _ => rfl⟩
  | settle => exact ⟨Nat.le_refl _, fun _ => rfl⟩
  | swap horder hleft hright hless =>
    obtain ⟨hfewer, hone⟩ := disorder_exchange horder hleft hright hless
    exact ⟨hfewer, fun hneighbours => hone (hneighbours _ _ rfl)⟩

lemma Leads.swaps_le (h : Leads work steps after) : disorder after + swaps steps ≤ disorder work := by
  induction h with
  | done => exact Nat.le_refl _
  | @step work after step more hstep hmore ih =>
    obtain ⟨hfirst, -⟩ := hstep.disorder_shown
    have hcount : swaps (step :: more) = swaps [step] + swaps more := swaps_append [step] more
    omega

lemma Leads.swaps_eq (h : Leads work steps after)
    (hneighbours : ∀ left right, .swap left right ∈ steps → right = left + 1) :
    disorder after + swaps steps = disorder work := by
  induction h with
  | done => rfl
  | @step work after step more hstep hmore ih =>
    have hlater := ih fun left right hswap => hneighbours left right (List.mem_cons_of_mem _ hswap)
    have hfirst := hstep.disorder_shown.2 fun left right hswap =>
      hneighbours left right (hswap ▸ List.mem_cons_self)
    have hcount : swaps (step :: more) = swaps [step] + swaps more := swaps_append [step] more
    omega

lemma swaps_settle (k : Nat) (more : List Step) : swaps (.settle k :: more) = swaps more :=
  List.countP_cons_of_neg Bool.false_ne_true

lemma comparisons_compare (left right : Nat) (more : List Step) :
    comparisons (.compare left right :: more) = comparisons more + 1 :=
  List.countP_cons_of_pos rfl

lemma comparisons_swap (left right : Nat) (more : List Step) :
    comparisons (.swap left right :: more) = comparisons more :=
  List.countP_cons_of_neg Bool.false_ne_true

lemma comparisons_settle (k : Nat) (more : List Step) :
    comparisons (.settle k :: more) = comparisons more :=
  List.countP_cons_of_neg Bool.false_ne_true

/-! ### Rounds of bubble sort -/

lemma carry_neighbours (j : Nat) (held : Int64) (rest : List Int64) (left right : Nat)
    (hswap : .swap left right ∈ (carry j held rest).2.2) : right = left + 1 := by
  induction rest generalizing j held with
  | nil => exact absurd hswap List.not_mem_nil
  | cons y rest ih =>
    rw [carry] at hswap
    split at hswap
    · simp only [List.mem_cons, reduceCtorEq, false_or, Step.swap.injEq] at hswap
      obtain ⟨rfl, rfl⟩ | hlater := hswap
      · rfl
      · exact ih (j + 1) held hlater
    · simp only [List.mem_cons, reduceCtorEq, false_or] at hswap
      exact ih (j + 1) y hswap

lemma bubble_neighbours (length : Nat) (values : List Int64) (left right : Nat)
    (hswap : .swap left right ∈ (bubble length values).2) : right = left + 1 := by
  induction length generalizing values with
  | zero => exact absurd hswap List.not_mem_nil
  | succ last ih =>
    match values with
    | [] => exact absurd hswap List.not_mem_nil
    | x :: rest =>
      rw [bubble] at hswap
      simp only [List.mem_append, List.mem_cons, reduceCtorEq, false_or] at hswap
      obtain hround | hlater := hswap
      · exact carry_neighbours 0 x rest left right hround
      · exact ih _ hlater

lemma comparisons_carry (j : Nat) (held : Int64) (rest : List Int64) :
    comparisons (carry j held rest).2.2 = rest.length := by
  induction rest generalizing j held with
  | nil => rfl
  | cons y rest ih =>
    rw [carry]
    split
    · rw [comparisons_compare, comparisons_swap, ih, List.length_cons]
    · rw [comparisons_compare, ih, List.length_cons]

lemma comparisons_bubble (length : Nat) (hlength : values.length = length) :
    comparisons (bubble length values).2 = length * (length - 1) / 2 := by
  induction length generalizing values with
  | zero =>
    rw [List.length_eq_zero_iff.mp hlength]
    rfl
  | succ last ih =>
    match values, hlength with
    | x :: rest, hlength =>
      have hrest : rest.length = last := Nat.succ_inj.mp hlength
      rw [bubble, comparisons_append, comparisons_settle, comparisons_carry,
        ih ((length_carry 0 x rest).trans hrest), Nat.triangle_succ, hrest, Nat.add_comm]

/-! ### Rounds of selection sort -/

lemma Selects.comparisons_eq (h : Selects front values steps result) :
    comparisons steps = values.length * (values.length - 1) / 2 := by
  induction h with
  | done => rfl
  | @round front rest behind result x smallest busy more hchosen hmore ih =>
    rw [comparisons_append, comparisons_settle, hchosen.comparisons_eq, ih, hchosen.length_eq,
      List.length_cons, Nat.triangle_succ, Nat.add_comm]

lemma Selects.swaps_le (h : Selects front values steps result) : swaps steps ≤ values.length - 1 := by
  induction h with
  | done => exact Nat.le_refl 0
  | @round front rest behind result x smallest busy more hchosen hmore ih =>
    have hbusy := hchosen.swaps_le
    rw [hchosen.length_eq] at ih
    rw [swaps_append, swaps_settle, List.length_cons]
    omega

/-! ### Both sorts -/

/-- How many steps a sort takes. Both sorts compare n (n - 1) / 2 times on a list of length n. Bubble
sort swaps as often as two positions of the list have their values in the wrong order. Selection sort
swaps not more often, and at most n - 1 times. A sort of a named array reports these numbers. -/
theorem sort_steps_counted (values : List Int64) :
    (∀ method, comparisons (sorted method values).2 = values.length * (values.length - 1) / 2) ∧
    swaps (bubbleSort values).2 = (inversions values).card ∧
    swaps (selectionSort values).2 ≤ values.length - 1 ∧
    swaps (selectionSort values).2 ≤ swaps (bubbleSort values).2 ∧
    ∀ (state : Algorithm.State) (name : String) (method : SortMethod),
      state.arrays.find? name = some values → values.length ≤ 100 →
        let result := showList (sorted method values).1
        let way := method.name
        let compared := values.length * (values.length - 1) / 2
        let swapped := swaps (sorted method values).2
        ∃ after, perform (.sort name method) state =
          .ok ⟨s!"sorted {name}: {result} ({way} sort, {compared} comparisons, {swapped} swaps)",
            (sorted method values).2⟩ after := by
  have hcompared : ∀ method,
      comparisons (sorted method values).2 = values.length * (values.length - 1) / 2 := by
    intro method
    cases method with
    | bubble => exact comparisons_bubble values.length rfl
    | selection => exact (selection_selects values.length [] rfl).comparisons_eq
  have hbubble : swaps (bubbleSort values).2 = disorder values := by
    have hswaps := (sorted_leads .bubble values).swaps_eq (bubble_neighbours values.length values)
    rwa [disorder_of_ascending (sorted_arranged .bubble values).ascending, Nat.zero_add] at hswaps
  have hselection : swaps (selectionSort values).2 ≤ disorder values :=
    (Nat.le_add_left _ _).trans (sorted_leads .selection values).swaps_le
  refine ⟨hcompared, ?_, (selection_selects values.length [] rfl).swaps_le, ?_,
    fun state name method hfound hlength => ?_⟩
  · rw [hbubble, card_inversions]
  · rw [hbubble]
    exact hselection
  · refine ⟨{ state with arrays := state.arrays.insert name (sorted method values).1 }, ?_⟩
    rw [perform_sort, hfound, ← hcompared method]
    exact if_pos hlength

/-- An array in which three pairs of values stand in the wrong order. -/
def shuffled : Algorithm.State := ⟨.ofList [("nums", [3, 1, 4, 2])], []⟩

theorem shuffled_counted :
    comparisons (sorted .bubble [3, 1, 4, 2]).2 = 6 ∧ swaps (bubbleSort [3, 1, 4, 2]).2 = 3 ∧
    swaps (selectionSort [3, 1, 4, 2]).2 ≤ 3 ∧
    ∃ effect after, perform (.sort "nums" .bubble) shuffled = .ok effect after ∧
      effect.description = "sorted nums: [1, 2, 3, 4] (bubble sort, 6 comparisons, 3 swaps)" := by
  obtain ⟨hcompared, hswaps, hfew, -, hreport⟩ := sort_steps_counted [3, 1, 4, 2]
  have hnums : shuffled.arrays.find? "nums" = some [3, 1, 4, 2] := by decide +kernel
  have hinversions : (inversions [3, 1, 4, 2]).card = 3 := by decide +kernel
  obtain ⟨after, hperform⟩ := hreport shuffled "nums" .bubble hnums (by decide)
  exact ⟨hcompared .bubble, hswaps.trans hinversions, hfew, _, after, hperform, by decide +kernel⟩

end Microworlds.Proofs

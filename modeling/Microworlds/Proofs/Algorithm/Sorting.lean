import Microworlds.Algorithm.Basic
import Microworlds.Proofs.Careful.Sorting
import Microworlds.Proofs.Handler
import Microworlds.Proofs.Stock
import Mathlib

/-!
# Both sorts sort

A list has one arrangement in ascending order. Bubble sort comes to it from the end, since what is carried
to the end is the greatest number, and selection sort from the front, since what is put there is the least
one. A sort of a named array puts this list in its place.
-/

namespace Microworlds.Proofs

open Algorithm

/-- The list has the same numbers as the given one, in ascending order. -/
structure Arranged (values result : List Int64) : Prop where
  perm : result.Perm values
  ascending : result.Pairwise (· ≤ ·)

variable {values result other : List Int64}

lemma Arranged.unique (h : Arranged values result) (hother : Arranged values other) :
    result = other :=
  (h.perm.trans hother.perm.symm).eq_of_pairwise (fun _ _ _ _ => Int64.le_antisymm) h.ascending
    hother.ascending

/-! ### Bubble sort -/

lemma carry_perm (j : Nat) (held : Int64) (rest : List Int64) :
    ((carry j held rest).1 ++ [(carry j held rest).2.1]).Perm (held :: rest) := by
  induction rest generalizing j held with
  | nil => exact .refl _
  | cons y rest ih =>
    rw [carry]
    split
    · exact ((ih (j + 1) held).cons y).trans (.swap held y rest)
    · exact (ih (j + 1) y).cons held

lemma le_carry (j : Nat) (held : Int64) (rest : List Int64) :
    ∀ x ∈ held :: rest, x ≤ (carry j held rest).2.1 := by
  induction rest generalizing j held with
  | nil => simp [carry]
  | cons y rest ih =>
    rw [carry]
    split
    · next hsmaller =>
      have hheld := ih (j + 1) held
      simp only [List.forall_mem_cons] at hheld ⊢
      exact ⟨hheld.1, Int64.le_trans (Int64.le_of_lt hsmaller) hheld.1, hheld.2⟩
    · next hgreater =>
      have hy := ih (j + 1) y
      simp only [List.forall_mem_cons] at hy ⊢
      exact ⟨Int64.le_trans (Int64.not_lt.mp hgreater) hy.1, hy⟩

lemma Arranged.concat {top : Int64} (h : Arranged other result) (hperm : (other ++ [top]).Perm values)
    (htop : ∀ x ∈ other, x ≤ top) : Arranged values (result ++ [top]) where
  perm := (h.perm.append_right [top]).trans hperm
  ascending := by
    refine List.pairwise_append.mpr ⟨h.ascending, List.pairwise_singleton _ _, fun x hx y hy => ?_⟩
    rw [List.mem_singleton.mp hy]
    exact htop x (h.perm.mem_iff.mp hx)

lemma bubble_arranged (length : Nat) (hlength : values.length = length) :
    Arranged values (bubble length values).1 := by
  induction length generalizing values with
  | zero =>
    rw [List.length_eq_zero_iff.mp hlength]
    exact ⟨.refl _, .nil⟩
  | succ last ih =>
    match values, hlength with
    | x :: rest, hlength =>
      have hfront : (carry 0 x rest).1.length = last :=
        (length_carry 0 x rest).trans (Nat.succ_inj.mp hlength)
      have hperm := carry_perm 0 x rest
      rw [bubble]
      refine (ih hfront).concat hperm fun y hy => le_carry 0 x rest y ?_
      exact hperm.mem_iff.mp (List.mem_append_left _ hy)

lemma bubbleSort_arranged (values : List Int64) : Arranged values (bubbleSort values).1 :=
  bubble_arranged values.length rfl

/-! ### Selection sort -/

lemma least_le (position : Nat) (value : Int64) (j : Nat) (rest : List Int64) :
    ∀ x ∈ value :: rest, (least position value j rest).2.1 ≤ x := by
  induction rest generalizing position value j with
  | nil => simp [least]
  | cons y rest ih =>
    rw [least]
    by_cases hsmaller : y < value
    · have hy := ih j y (j + 1)
      simp only [hsmaller, if_true, List.forall_mem_cons] at hy ⊢
      exact ⟨Int64.le_trans hy.1 (Int64.le_of_lt hsmaller), hy⟩
    · have hvalue := ih position value (j + 1)
      simp only [hsmaller, if_false, List.forall_mem_cons] at hvalue ⊢
      exact ⟨hvalue.1, Int64.le_trans hvalue.1 (Int64.not_lt.mp hsmaller), hvalue.2⟩

lemma least_found (position : Nat) (value : Int64) (j : Nat) (rest : List Int64) :
    ((least position value j rest).1 = position ∧ (least position value j rest).2.1 = value) ∨
      ∃ k, (least position value j rest).1 = j + k ∧
        rest[k]? = some (least position value j rest).2.1 := by
  induction rest generalizing position value j with
  | nil => exact .inl ⟨rfl, rfl⟩
  | cons y rest ih =>
    rw [least]
    by_cases hsmaller : y < value
    · simp only [hsmaller, if_true]
      obtain ⟨hfound, hvalue⟩ | ⟨k, hfound, hk⟩ := ih j y (j + 1)
      · exact .inr ⟨0, hfound, congrArg some hvalue.symm⟩
      · exact .inr ⟨k + 1, by omega, hk⟩
    · simp only [hsmaller, if_false]
      obtain hsame | ⟨k, hfound, hk⟩ := ih position value (j + 1)
      · exact .inl hsame
      · exact .inr ⟨k + 1, by omega, hk⟩

lemma cons_set_perm {x y : Int64} {rest : List Int64} {k : Nat} (h : rest[k]? = some y) :
    (y :: rest.set k x).Perm (x :: rest) := by
  obtain ⟨hk, rfl⟩ := List.getElem?_eq_some_iff.mp h
  have hfront : 0 < (x :: rest).length := Nat.zero_lt_succ _
  have hplace : k + 1 < (x :: rest).length := Nat.succ_lt_succ hk
  exact List.set_set_perm hfront hplace

lemma selection_succ (length i : Nat) (x : Int64) (rest : List Int64) :
    ∃ smallest behind, (smallest :: behind).Perm (x :: rest) ∧ (∀ y ∈ x :: rest, smallest ≤ y) ∧
      (selection (length + 1) i (x :: rest)).1 =
        smallest :: (selection length (i + 1) behind).1 := by
  have hleast := least_le i x (i + 1) rest
  obtain ⟨hfound, hvalue⟩ | ⟨k, hfound, hk⟩ := least_found i x (i + 1) rest
  · rw [hvalue] at hleast
    refine ⟨x, rest, .refl _, hleast, ?_⟩
    rw [selection]
    simp [hfound, hvalue]
  · refine ⟨_, _, cons_set_perm hk, hleast, ?_⟩
    have hbehind : i + 1 + k ≠ i := by omega
    rw [selection]
    simp [hfound, hbehind]

lemma Arranged.cons {smallest : Int64} (h : Arranged other result)
    (hperm : (smallest :: other).Perm values) (hsmallest : ∀ x ∈ values, smallest ≤ x) :
    Arranged values (smallest :: result) where
  perm := (h.perm.cons smallest).trans hperm
  ascending := by
    refine List.pairwise_cons.mpr ⟨fun x hx => hsmallest x ?_, h.ascending⟩
    exact hperm.mem_iff.mp (List.mem_cons_of_mem _ (h.perm.mem_iff.mp hx))

lemma selection_arranged (length i : Nat) (hlength : values.length = length) :
    Arranged values (selection length i values).1 := by
  induction length generalizing values i with
  | zero =>
    rw [List.length_eq_zero_iff.mp hlength]
    exact ⟨.refl _, .nil⟩
  | succ length ih =>
    match values, hlength with
    | x :: rest, hlength =>
      obtain ⟨smallest, behind, hperm, hleast, hselection⟩ := selection_succ length i x rest
      have hbehind : behind.length = length :=
        Nat.succ_inj.mp (hperm.length_eq.trans hlength)
      rw [hselection]
      exact (ih (i + 1) hbehind).cons hperm hleast

lemma selectionSort_arranged (values : List Int64) : Arranged values (selectionSort values).1 :=
  selection_arranged values.length 0 rfl

/-! ### Named arrays -/

lemma sorted_arranged (method : SortMethod) (values : List Int64) :
    Arranged values (sorted method values).1 := by
  cases method with
  | bubble => exact bubbleSort_arranged values
  | selection => exact selectionSort_arranged values

/-- What a sort reports of the list that it comes to and of its steps. -/
def sortEffect (name : String) (method : SortMethod) (values : List Int64) : Effect :=
  let text := showList (sorted method values).1
  let way := method.name
  let compared := comparisons (sorted method values).2
  let swapped := swaps (sorted method values).2
  ⟨s!"sorted {name}: {text} ({way} sort, {compared} comparisons, {swapped} swaps)",
    (sorted method values).2⟩

/-- The refusal of an array that is too long. -/
def tooLong (values : List Int64) : Refusal :=
  let length := values.length
  .invalid s!"array too long: {length} elements (at most {maxLength})"

lemma perform_sort (state : Algorithm.State) (name : String) (method : SortMethod) :
    perform (.sort name method) state =
      match state.arrays.find? name with
      | none => .error (.missing "array" name) state
      | some values =>
        if values.length ≤ 100 then
          .ok (sortEffect name method values)
            { state with arrays := state.arrays.insert name (sorted method values).1 }
        else .error (tooLong values) state := by
  change (liftM (array state name) >>= _ : Handler Refusal Algorithm.State Effect) state = _
  rw [run_liftM]
  unfold array
  cases state.arrays.find? name with
  | none => rfl
  | some values =>
    change (liftM (withinLimit values) >>= _ : Handler Refusal Algorithm.State Effect) state = _
    rw [run_liftM]
    by_cases hlength : values.length ≤ 100
    · have hlimit : withinLimit values = .ok () := if_pos hlength
      rw [hlimit]
      exact (if_pos hlength).symm
    · have hlimit : withinLimit values = .error (tooLong values) := if_neg hlength
      rw [hlimit]
      exact (if_neg hlength).symm

/-- Both sorts sort. Each of them comes to the only list that has the same numbers in ascending order,
and so do their loops over positions. A sort of a named array of at most 100 numbers puts this list in
its place and leaves all other arrays and the output as they were. A longer array is refused, and so is
a name without an array, and nothing changes. -/
theorem sorts_ascending :
    (∀ values result : List Int64,
      (Arranged values result ↔ (bubbleSort values).1 = result) ∧
      (Arranged values result ↔ (selectionSort values).1 = result)) ∧
    (∀ values : List Int64, ∃ result exchanges choices, Arranged values result ∧
      (Careful.bubbleSort values : Careful Empty Work) = .ok ⟨result, exchanges⟩ ∧
      (Careful.selectionSort values : Careful Empty Work) = .ok ⟨result, choices⟩) ∧
    ∀ (state : Algorithm.State) (name : String) (method : SortMethod),
      (∀ values, state.arrays.find? name = some values → values.length ≤ 100 →
        ∃ effect after result, perform (.sort name method) state = .ok effect after ∧
          Arranged values result ∧ after.output = state.output ∧
          ∀ other, after.arrays.find? other =
            if other = name then some result else state.arrays.find? other) ∧
      (∀ values, state.arrays.find? name = some values → 100 < values.length →
        perform (.sort name method) state = .error (tooLong values) state) ∧
      (state.arrays.find? name = none →
        perform (.sort name method) state = .error (.missing "array" name) state) := by
  refine ⟨fun values result => ⟨⟨fun h => ?_, ?_⟩, ⟨fun h => ?_, ?_⟩⟩, fun values => ?_,
    fun state name method => ⟨fun values hvalues hlength => ?_, fun values hvalues hlength => ?_,
      fun hnone => ?_⟩⟩
  · exact (bubbleSort_arranged values).unique h
  · rintro rfl
    exact bubbleSort_arranged values
  · exact (selectionSort_arranged values).unique h
  · rintro rfl
    exact selectionSort_arranged values
  · have hsame : (selectionSort values).1 = (bubbleSort values).1 :=
      (selectionSort_arranged values).unique (bubbleSort_arranged values)
    refine ⟨_, _, (selectionSort values).2, bubbleSort_arranged values, bubbleSort_eq values, ?_⟩
    rw [selectionSort_eq, hsame]
  · have hok : perform (.sort name method) state = .ok (sortEffect name method values)
        { state with arrays := state.arrays.insert name (sorted method values).1 } := by
      rw [perform_sort, hvalues]
      exact if_pos hlength
    exact ⟨_, _, _, hok, sorted_arranged method values, rfl,
      fun other => find?_insert state.arrays name other _⟩
  · rw [perform_sort, hvalues]
    exact if_neg (Nat.not_le_of_lt hlength)
  · rw [perform_sort, hnone]

/-- Two numbers stand twice in the first array. The second one is too long. -/
def threeArrays : Algorithm.State :=
  ⟨.ofList [("nums", [3, -1, 3, 2, -1]), ("long", List.replicate 101 0), ("one", [7])], ["done"]⟩

theorem nums_put_in_order :
    ∃ effect after, perform (.sort "nums" .selection) threeArrays = .ok effect after ∧
      after.arrays.find? "nums" = some [-1, -1, 2, 3, 3] ∧ after.arrays.find? "one" = some [7] ∧
      perform (.sort "long" .bubble) threeArrays = .error (tooLong (List.replicate 101 0)) threeArrays ∧
      perform (.sort "none" .bubble) threeArrays = .error (.missing "array" "none") threeArrays := by
  obtain ⟨hresult, -, hperform⟩ := sorts_ascending
  have hnums : threeArrays.arrays.find? "nums" = some [3, -1, 3, 2, -1] := by decide +kernel
  have hlong : threeArrays.arrays.find? "long" = some (List.replicate 101 0) := by decide +kernel
  obtain ⟨effect, after, result, hok, harranged, -, harrays⟩ :=
    (hperform threeArrays "nums" .selection).1 _ hnums (by decide)
  have hsorted : (selectionSort [3, -1, 3, 2, -1]).1 = [-1, -1, 2, 3, 3] := by decide +kernel
  rw [← (hresult _ _).2.mp harranged, hsorted] at harrays
  refine ⟨effect, after, hok, harrays "nums", ?_, ?_, ?_⟩
  · exact (harrays "one").trans (by decide +kernel)
  · exact (hperform threeArrays "long" .bubble).2.1 _ hlong (by decide)
  · exact (hperform threeArrays "none" .bubble).2.2 (by decide +kernel)

end Microworlds.Proofs

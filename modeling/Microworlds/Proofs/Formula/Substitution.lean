import Microworlds.Proofs.Reached

/-!
# A number in place of the unknown

To give the unknown of a formula a number is to put that number into the formula, errors included. So a
plot shows at each place what the calculator makes of the formula with that place put in.

Without a number for it, the unknown stops the evaluation, unless a division by zero stops it before. What
is before is settled by the order in which the parts of a formula are worked out.
-/

namespace Microworlds.Proofs

open Formula

/-- The formula with the number in place of its unknown. -/
def put (v : Float) : Formula → Formula
  | .number x => .number x
  | .unknown => .number v
  | .negate inner => .negate (put v inner)
  | .binary operator left right => .binary operator (put v left) (put v right)
  | .call function argument => .call function (put v argument)

/-- The parts of a formula in the order in which they are worked out: operands from left to right, and
then what is made of them. -/
def partsInOrder : Formula → List Formula
  | .number x => [.number x]
  | .unknown => [.unknown]
  | .negate inner => partsInOrder inner ++ [.negate inner]
  | .binary operator left right =>
    partsInOrder left ++ (partsInOrder right ++ [.binary operator left right])
  | .call function argument => partsInOrder argument ++ [.call function argument]

def Mentions (formula : Formula) : Prop :=
  .unknown ∈ partsInOrder formula

/-- A quotient or a remainder whose divisor comes to zero. -/
def DividesByZero (part : Formula) : Prop :=
  ∃ operator left right z, part = .binary operator left right ∧
    (operator = .divide ∨ operator = .remainder) ∧ value none right = .ok z ∧ (z == 0) = true

/-- Among parts in their order, a zero divisor comes before any unknown. -/
def MeetsZero (parts : List Formula) : Prop :=
  ∃ before part after, parts = before ++ part :: after ∧ .unknown ∉ before ∧ DividesByZero part

/-! ### Substitution -/

lemma value_put (v : Float) (x : Option Float) (formula : Formula) :
    value x (put v formula) = value (some v) formula := by
  induction formula with
  | number | unknown => rfl
  | negate inner ih => rw [put, value, value, ih]
  | binary operator left right ihleft ihright => rw [put, value, value, ihleft, ihright]
  | call function argument ih => rw [put, value, value, ih]

lemma eval_put (v : Float) (x : Option Float) (formula : Formula) :
    (put v formula).eval x = formula.eval (some v) := by
  rw [eval, eval, value_put]

lemma value_of_not_mentions {formula : Formula} (h : ¬ Mentions formula) (x y : Option Float) :
    value x formula = value y formula := by
  induction formula with
  | number => rfl
  | unknown => exact absurd (List.mem_singleton.2 rfl) h
  | negate inner ih =>
    have hinner : ¬ Mentions inner := fun hmem => h (List.mem_append_left _ hmem)
    rw [value, value, ih hinner]
  | binary operator left right ihleft ihright =>
    have hleft : ¬ Mentions left := fun hmem => h (List.mem_append_left _ hmem)
    have hright : ¬ Mentions right :=
      fun hmem => h (List.mem_append_right _ (List.mem_append_left _ hmem))
    rw [value, value, ihleft hleft, ihright hright]
  | call function argument ih =>
    have hargument : ¬ Mentions argument := fun hmem => h (List.mem_append_left _ hmem)
    rw [value, value, ih hargument]

/-! ### Evaluation without a number for the unknown -/

lemma MeetsZero.append {front : List Formula} (h : MeetsZero front) (back : List Formula) :
    MeetsZero (front ++ back) := by
  obtain ⟨before, part, after, rfl, hbefore, hpart⟩ := h
  exact ⟨before, part, after ++ back, by simp, hbefore, hpart⟩

/-- A zero divisor that comes before any unknown is in the front, or the front has no unknown. -/
lemma meetsZero_append {front back : List Formula} :
    MeetsZero (front ++ back) ↔ MeetsZero front ∨ .unknown ∉ front ∧ MeetsZero back := by
  constructor
  · rintro ⟨before, part, after, hparts, hbefore, hpart⟩
    obtain ⟨more, rfl, hback⟩ | ⟨more, hfront, hafter⟩ := List.append_eq_append_iff.1 hparts
    · exact .inr ⟨fun hmem => hbefore (List.mem_append_left _ hmem), more, part, after, hback,
        fun hmem => hbefore (List.mem_append_right _ hmem), hpart⟩
    · cases more with
      | nil =>
        rw [List.append_nil] at hfront
        subst hfront
        exact .inr ⟨hbefore, [], part, after, hafter.symm, List.not_mem_nil, hpart⟩
      | cons first more =>
        obtain ⟨rfl, rfl⟩ := List.cons.inj hafter
        exact .inl ⟨before, part, more, hfront, hbefore, hpart⟩
  · rintro (h | ⟨hfront, before, part, after, rfl, hbefore, hpart⟩)
    · exact h.append back
    · exact ⟨front ++ before, part, after, by simp, by simp [hfront, hbefore], hpart⟩

lemma meetsZero_singleton {part : Formula} : MeetsZero [part] ↔ DividesByZero part := by
  constructor
  · rintro ⟨before, part', after, hparts, -, hpart⟩
    obtain ⟨rfl, hcons⟩ | ⟨-, hnil⟩ := List.append_eq_singleton_iff.1 hparts.symm
    · cases hcons
      exact hpart
    · cases hnil
  · exact fun h => ⟨[], part, [], rfl, List.not_mem_nil, h⟩

/-- What evaluation without a number for the unknown comes to, by the parts that are worked out. -/
inductive Unbound (parts : List Formula) : Except Error Float → Prop where
  | value (v : Float) (hknown : .unknown ∉ parts) (hsafe : ¬ MeetsZero parts) :
    Unbound parts (.ok v)
  | zero (hzero : MeetsZero parts) : Unbound parts (.error .divisionByZero)
  | name (hunknown : .unknown ∈ parts) (hsafe : ¬ MeetsZero parts) :
    Unbound parts (.error (.unknownName "x"))

lemma Unbound.bind {front back : List Formula} {r : Except Error Float}
    {f : Float → Except Error Float} (h : Unbound front r)
    (hf : ∀ v, r = .ok v → Unbound back (f v)) : Unbound (front ++ back) (r >>= f) := by
  cases h with
  | value v hknown hsafe =>
    have hback := hf v rfl
    change Unbound (front ++ back) (f v)
    generalize f v = result at hback ⊢
    cases hback with
    | value w hback hsafe' =>
      exact .value w (by simp [hknown, hback]) (by simp [meetsZero_append, hsafe, hsafe'])
    | zero hzero => exact .zero (meetsZero_append.2 (.inr ⟨hknown, hzero⟩))
    | name hback hsafe' =>
      exact .name (List.mem_append_right _ hback) (by simp [meetsZero_append, hsafe, hsafe'])
  | zero hzero => exact .zero (hzero.append back)
  | name hunknown hsafe =>
    exact .name (List.mem_append_left _ hunknown) (by simp [meetsZero_append, hsafe, hunknown])

lemma map_eq_bind (f : Float → Float) (r : Except Error Float) :
    r.map f = r >>= fun v => .ok (f v) := by
  cases r <;> rfl

lemma unbound_part {part : Formula} (hpart : part ≠ .unknown) (h : ¬ DividesByZero part)
    (v : Float) : Unbound [part] (.ok v) :=
  .value v (by simpa using hpart.symm) (by rwa [meetsZero_singleton])

lemma unbound_apply (operator : Operator) (left : Formula) {right : Formula} (l : Float) {r : Float}
    (hright : value none right = .ok r) :
    Unbound [.binary operator left right] (operator.apply l r) := by
  by_cases hdivides : operator = .divide ∨ operator = .remainder
  · by_cases hzero : (r == 0) = true
    · have happly : operator.apply l r = .error .divisionByZero := by
        obtain rfl | rfl := hdivides <;> simp [Operator.apply, hzero]
      rw [happly]
      exact .zero (meetsZero_singleton.2
        ⟨operator, left, right, r, rfl, hdivides, hright, hzero⟩)
    · have happly : ∃ v, operator.apply l r = .ok v := by
        obtain rfl | rfl := hdivides <;> simp [Operator.apply, hzero]
      obtain ⟨v, happly⟩ := happly
      rw [happly]
      refine unbound_part (by simp) ?_ v
      rintro ⟨_, _, _, z, heq, -, hz, hzero'⟩
      cases heq
      rw [hright] at hz
      cases hz
      exact hzero hzero'
  · have happly : ∃ v, operator.apply l r = .ok v := by
      cases operator <;> simp [Operator.apply] at hdivides ⊢
    obtain ⟨v, happly⟩ := happly
    rw [happly]
    refine unbound_part (by simp) ?_ v
    rintro ⟨_, _, _, z, heq, hdivides', -⟩
    cases heq
    exact hdivides hdivides'

/-- The first of the parts in their order that has no value settles the error. -/
lemma value_unbound (formula : Formula) : Unbound (partsInOrder formula) (value none formula) := by
  induction formula with
  | number x => exact unbound_part (by simp) (by simp [DividesByZero]) x
  | unknown =>
    exact .name (List.mem_singleton.2 rfl)
      (by simp [partsInOrder, meetsZero_singleton, DividesByZero])
  | negate inner ih =>
    rw [value, map_eq_bind]
    exact ih.bind fun v _ => unbound_part (by simp) (by simp [DividesByZero]) (-v)
  | binary operator left right ihleft ihright =>
    exact ihleft.bind fun l _ => ihright.bind fun r hr => unbound_apply operator left l hr
  | call function argument ih =>
    rw [value, map_eq_bind]
    exact ih.bind fun v _ => unbound_part (by simp) (by simp [DividesByZero]) (function.apply v)

lemma eval_of_value_error {formula : Formula} {x : Option Float} {error : Error}
    (h : value x formula = .error error) : formula.eval x = .error error := by
  rw [eval, h]
  rfl

/-- An unknown without a number makes an error, of a division by zero if that comes first. -/
lemma eval_none_of_mentions {formula : Formula} (h : Mentions formula) :
    (MeetsZero (partsInOrder formula) → formula.eval none = .error .divisionByZero) ∧
      (¬ MeetsZero (partsInOrder formula) → formula.eval none = .error (.unknownName "x")) := by
  have hunbound := value_unbound formula
  cases hvalue : value none formula with
  | ok v =>
    rw [hvalue] at hunbound
    cases hunbound with
    | value _ hknown _ => exact absurd h hknown
  | error error =>
    rw [eval_of_value_error hvalue]
    rw [hvalue] at hunbound
    cases hunbound with
    | zero hzero => exact ⟨fun _ => rfl, fun hsafe => absurd hzero hsafe⟩
    | name _ hsafe => exact ⟨fun hzero => absurd hzero hsafe, fun _ => rfl⟩

/-! ### Plots -/

/-- The point over a place: what the calculator makes of the formula with the place put in. -/
def calculated? (formula : Formula) (x : Float) : Option (Float × Float) :=
  ((put x formula).eval none).toOption.map fun y => (x, y)

lemma sample_eq (formula : Formula) (range : Math.Range) (width : Nat) :
    Math.sample formula range width =
      (List.range (Math.samplesPerUnit * width + 1)).filterMap fun k =>
        calculated? formula (Math.samplePlace range k) := by
  simp only [Math.sample, calculated?, eval_put]
  refine congrArg (fun point => List.filterMap point _) (funext fun k => ?_)
  cases formula.eval (some (Math.samplePlace range k)) <;> rfl

lemma plot_draws {expression : String} {state after : Math.State} {effect : Effect}
    (h : Math.perform (.plot expression) state = .ok effect after) :
    ∃ formula width, parse expression = .ok formula ∧ Math.span state.range = .ok width ∧
      after.plots = state.plots ++ [⟨expression, Math.sample formula state.range width⟩] := by
  obtain ⟨formula, hparse, h⟩ := bind_check_ok h
  have h := bind_get_ok h
  obtain ⟨width, hspan, h⟩ := bind_check_ok h
  obtain ⟨-, h⟩ := bind_stopIf_ok h
  cases h
  exact ⟨formula, width, hparse, hspan, rfl⟩

/-- To evaluate a formula at a number is to put the number in. The formula at any number, infinite or
not a number as it may be, comes to what the formula with that number in place of the unknown comes to,
and to the same error. Without a number, a formula that mentions the unknown fails: with a division by
zero if a zero divisor comes before any unknown, and otherwise for want of the unknown. The number does
not matter to a formula without unknown, and whatever a formula comes to is finite. So the points of a
plot are what the calculator makes of the formula with each place put in. -/
theorem eval_is_substitution :
    (∀ (formula : Formula) (v : Float), formula.eval (some v) = (put v formula).eval none) ∧
    (∀ formula : Formula, Mentions formula →
      (MeetsZero (partsInOrder formula) → formula.eval none = .error .divisionByZero) ∧
      (¬ MeetsZero (partsInOrder formula) → formula.eval none = .error (.unknownName "x"))) ∧
    (∀ formula : Formula, ¬ Mentions formula → ∀ x y, formula.eval x = formula.eval y) ∧
    (∀ (formula : Formula) (x : Option Float) (y : Float), formula.eval x = .ok y → IsFinite y) ∧
    ∀ (expression : String) (state after : Math.State) (effect : Effect),
      Math.perform (.plot expression) state = .ok effect after →
        ∃ formula width, parse expression = .ok formula ∧ Math.span state.range = .ok width ∧
          after.plots = state.plots ++ [⟨expression,
            (List.range (Math.samplesPerUnit * width + 1)).filterMap fun k =>
              calculated? formula (Math.samplePlace state.range k)⟩] := by
  refine ⟨fun formula v => (eval_put v none formula).symm, fun formula => eval_none_of_mentions,
    fun formula h x y => ?_, fun formula x y => eval_finite, ?_⟩
  · rw [eval, eval, value_of_not_mentions h x y]
  · intro expression state after effect h
    obtain ⟨formula, width, hparse, hspan, hplots⟩ := plot_draws h
    exact ⟨formula, width, hparse, hspan, by rw [hplots, sample_eq]⟩

/-- A division by zero in front of the unknown. -/
def zeroFirst : Formula := .binary .add (.binary .divide (.number 1) (.number 0)) .unknown

/-- A division by zero behind the unknown. -/
def unknownFirst : Formula := .binary .add .unknown (.binary .divide (.number 1) (.number 0))

/-- The drawing before a plot over one unit. -/
def unitDrawing : Math.State := { Math.State.initial with range := ⟨0, 1⟩ }

lemma plot_succeeds : ∃ effect after, Math.perform (.plot "x") unitDrawing = .ok effect after := by
  have h : (match Math.perform (.plot "x") unitDrawing with
    | .ok .. => true
    | .error .. => false) = true := by decide +kernel
  split at h
  · next effect after heq => exact ⟨effect, after, heq⟩
  · cases h

/-- The first error is the one that shows, a formula without unknown is worked out all the same, and a
plot of the unknown itself is drawn. -/
theorem zero_or_unknown_first :
    zeroFirst.eval none = .error .divisionByZero ∧
    unknownFirst.eval none = .error (.unknownName "x") ∧
    (Formula.number 2).eval (some 3) = (Formula.number 2).eval none ∧ IsFinite 2 ∧
    ∃ effect after formula width, Math.perform (.plot "x") unitDrawing = .ok effect after ∧
      parse "x" = .ok formula ∧ Math.span unitDrawing.range = .ok width ∧
      after.plots = [⟨"x", (List.range (Math.samplesPerUnit * width + 1)).filterMap fun k =>
        calculated? formula (Math.samplePlace unitDrawing.range k)⟩] := by
  have hzero : MeetsZero (partsInOrder zeroFirst) := by
    refine ⟨[.number 1, .number 0], _, _, rfl, by simp, .divide, .number 1, .number 0, 0, rfl,
      .inl rfl, rfl, by decide +kernel⟩
  have hunknown : ¬ MeetsZero (partsInOrder unknownFirst) := by
    rw [show partsInOrder unknownFirst = [.unknown] ++ _ from rfl, meetsZero_append,
      meetsZero_singleton]
    simp [DividesByZero]
  obtain ⟨-, hmentions, hclosed, hfinite, hplots⟩ := eval_is_substitution
  obtain ⟨effect, after, hplot⟩ := plot_succeeds
  obtain ⟨formula, width, hparse, hspan, hdrawn⟩ := hplots "x" unitDrawing after effect hplot
  exact ⟨(hmentions zeroFirst (by simp [Mentions, partsInOrder, zeroFirst])).1 hzero,
    (hmentions unknownFirst (by simp [Mentions, partsInOrder, unknownFirst])).2 hunknown,
    hclosed (.number 2) (by simp [Mentions, partsInOrder]) _ _, hfinite (.number 2) none 2 rfl,
    effect, after, formula, width, hplot, hparse, hspan, hdrawn⟩

end Microworlds.Proofs

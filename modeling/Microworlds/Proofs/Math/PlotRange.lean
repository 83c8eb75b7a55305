import Microworlds.Proofs.Atomicity
import Microworlds.Proofs.History
import Microworlds.Proofs.Invariant
import Microworlds.Proofs.Careful.Commands

/-!
# Ranges that can be plotted

A range is set, and a formula is plotted over it, only if its ends are in order and at most 1000 units
apart. The difference of the ends need not fit into 64 bits; it counts as an exact number. A range that a
host has handed in is held to the same when a plot is asked for, before any sample is worked out.
-/

namespace Microworlds.Proofs

open Formula

/-- The ends of the range are in order, and at most 1000 units apart. -/
def Plottable (range : Math.Range) : Prop :=
  range.min < range.max ∧ range.max.toInt - range.min.toInt ≤ 1000

instance (range : Math.Range) : Decidable (Plottable range) :=
  inferInstanceAs (Decidable (_ ∧ _))

example : ¬ Plottable ⟨.minValue, .maxValue⟩ := by decide

/-- What is said about a range that cannot be plotted. -/
def rangeRefusal (range : Math.Range) : Refusal :=
  let min := range.min
  let max := range.max
  if min < max then .invalid s!"range too wide: {min} to {max} (at most {Math.maxSpan} units)"
  else .invalid s!"range start must be below its end: {min} to {max}"

/-- An expression that is read as a formula. -/
def Parses (expression : String) : Prop :=
  ∃ formula, parse expression = .ok formula

/-- The samples of a formula over a range of the given width, by a machine that may break down. -/
abbrev Sampler := Formula → Math.Range → Nat → Careful Failure (List (Float × Float))

/-- The plot of a formula by the operations of a machine, the sampler among them. -/
def Careful.plotWith (sampler : Sampler) (expression : String) :
    Handler (Halt Failure) Math.State Effect := do
  let formula ← Handler.check (Halt.map .evaluation) (parse expression)
  let range := (← get).range
  let width ← Handler.check (.stop ∘ .precondition) (span range)
  let points ← (sampler formula range width.toInt.toNat : Careful Failure (List (Float × Float)))
  let min := range.min
  let max := range.max
  Handler.stopIf points.isEmpty
    (.stop (.precondition (.invalid s!"y = {expression} has no finite values in [{min}, {max}]")))
  modify fun state => { state with plots := state.plots ++ [⟨expression, points⟩] }
  let count := points.length
  return .plain s!"plotted y = {expression} over [{min}, {max}] ({count} points)"

variable {state : Math.State} {expression : String}

/-! ### The width of a range -/

lemma span_of_plottable {range : Math.Range} (h : Plottable range) :
    Math.span range = .ok (range.max.toInt - range.min.toInt).toNat := by
  have horder : ¬ range.max ≤ range.min := Int64.not_le.2 h.1
  have hwidth : range.max.toInt - range.min.toInt ≤ Math.maxSpan := h.2
  unfold Math.span
  simp only [horder, hwidth, if_true, if_false]

lemma span_of_not_plottable {range : Math.Range} (h : ¬ Plottable range) :
    Math.span range = .error (rangeRefusal range) := by
  unfold Math.span rangeRefusal
  by_cases horder : range.min < range.max
  · have hwide : ¬ range.max.toInt - range.min.toInt ≤ Math.maxSpan := fun hwidth => h ⟨horder, hwidth⟩
    have hmax : ¬ range.max ≤ range.min := Int64.not_le.2 horder
    simp only [hmax, hwide, horder, if_true, if_false]
  · have hmax : range.max ≤ range.min := Int64.not_lt.1 horder
    simp only [hmax, horder, if_true, if_false]

/-! ### Ranges that are set -/

lemma perform_setRange (min max : Int64) :
    Math.perform (.setRange min max) state =
      if Plottable ⟨min, max⟩ then
        .ok (.plain s!"range set to [{min}, {max}]") { state with range := ⟨min, max⟩ }
      else .error (.precondition (rangeRefusal ⟨min, max⟩)) state := by
  have hrun : Math.perform (.setRange min max) state =
      ((do
        let _ ← Math.span ⟨min, max⟩
        modify fun state => { state with range := ⟨min, max⟩ }
        return .plain s!"range set to [{min}, {max}]" :
          Handler Refusal Math.State Effect).adaptExcept .precondition) state := rfl
  rw [hrun]
  split
  · next h => rw [span_of_plottable h]; rfl
  · next h => rw [span_of_not_plottable h]; rfl

/-! ### Ranges that are plotted -/

/-- The formula has no finite value at any of the places over the range. -/
def NoValues (formula : Formula) (range : Math.Range) : Prop :=
  ∀ k : Nat, (k : Int) ≤ 10 * (range.max.toInt - range.min.toInt) →
    ∃ e, formula.eval (some (Math.samplePlace range k)) = .error e

lemma sample_isEmpty_iff (formula : Formula) {range : Math.Range} (h : Plottable range) :
    (Math.sample formula range (range.max.toInt - range.min.toInt).toNat).isEmpty = true ↔
      NoValues formula range := by
  have hwidth : range.min.toInt < range.max.toInt := Int64.lt_iff_toInt_lt.1 h.1
  rw [List.isEmpty_iff, Math.sample, List.filterMap_eq_nil_iff]
  constructor
  · intro hnone k hk
    have hplace : k ∈ List.range (Math.samplesPerUnit * (range.max.toInt - range.min.toInt).toNat + 1) := by
      rw [List.mem_range, Math.samplesPerUnit]
      omega
    have hvalue := hnone k hplace
    cases heval : formula.eval (some (Math.samplePlace range k)) with
    | ok y => simp only [heval, reduceCtorEq] at hvalue
    | error e => exact ⟨e, rfl⟩
  · intro hvalues k hk
    rw [List.mem_range, Math.samplesPerUnit] at hk
    obtain ⟨e, he⟩ := hvalues k (by omega)
    simp only [he]

/-- What is said about a formula that has no point over a range. -/
def emptyRefusal (expression : String) (range : Math.Range) : Refusal :=
  let min := range.min
  let max := range.max
  .invalid s!"y = {expression} has no finite values in [{min}, {max}]"

/-- What a plot comes to. -/
inductive PlotEnds (expression : String) (state : Math.State) :
    EStateM.Result Failure Math.State Effect → Prop
  | unread {e : Error} (hparse : parse expression = .error e) :
    PlotEnds expression state (.error (.evaluation e) state)
  | outOfRange (hparse : Parses expression) (hrange : ¬ Plottable state.range) :
    PlotEnds expression state (.error (.precondition (rangeRefusal state.range)) state)
  | empty {formula : Formula} (hparse : parse expression = .ok formula)
    (hrange : Plottable state.range) (hvalues : NoValues formula state.range) :
    PlotEnds expression state (.error (.precondition (emptyRefusal expression state.range)) state)
  | drawn {formula : Formula} (effect : Effect) (after : Math.State)
    (hparse : parse expression = .ok formula) (hrange : Plottable state.range)
    (hvalues : ¬ NoValues formula state.range) : PlotEnds expression state (.ok effect after)

lemma plot_ends (expression : String) (state : Math.State) :
    PlotEnds expression state (Math.perform (.plot expression) state) := by
  change PlotEnds expression state (Math.plot expression state)
  unfold Math.plot
  cases hparse : parse expression with
  | error e => exact .unread hparse
  | ok formula =>
    by_cases hrange : Plottable state.range
    · have hsamples := sample_isEmpty_iff formula hrange
      simp only [Handler.check, pure_bind, run_get, span_of_plottable hrange, run_stopIf]
      split
      · next hempty => exact .empty hparse hrange (hsamples.1 hempty)
      · next hempty => exact .drawn _ _ hparse hrange fun hvalues => hempty (hsamples.2 hvalues)
    · simp only [Handler.check, pure_bind, run_get, span_of_not_plottable hrange]
      exact .outOfRange ⟨formula, hparse⟩ hrange

lemma head?_append {front rest : String} {c : Char} (h : front.toList.head? = some c) :
    (front ++ rest).toList.head? = some c := by
  rw [String.toList_append, List.head?_append, h, Option.some_or]

lemma head?_rangeRefusal (range : Math.Range) :
    (rangeRefusal range).message.toList.head? = some 'r' := by
  have hwide : (toString "range too wide: ").toList.head? = some 'r' := rfl
  have horder : (toString "range start must be below its end: ").toList.head? = some 'r' := rfl
  unfold rangeRefusal
  simp only
  split
  · exact head?_append (head?_append (head?_append (head?_append (head?_append (head?_append hwide)))))
  · exact head?_append (head?_append (head?_append horder))

lemma head?_emptyRefusal (expression : String) (range : Math.Range) :
    (emptyRefusal expression range).message.toList.head? = some 'y' := by
  have hplot : (toString "y = ").toList.head? = some 'y' := rfl
  exact head?_append (head?_append (head?_append (head?_append (head?_append (head?_append hplot)))))

lemma emptyRefusal_ne_rangeRefusal (expression : String) (range shown : Math.Range) :
    emptyRefusal expression range ≠ rangeRefusal shown := by
  intro h
  have hempty := head?_emptyRefusal expression range
  rw [h, head?_rangeRefusal] at hempty
  cases hempty

lemma refused_of_not_plottable (hparse : Parses expression) (hrange : ¬ Plottable state.range) :
    Math.perform (.plot expression) state =
      .error (.precondition (rangeRefusal state.range)) state := by
  have hends := plot_ends expression state
  generalize Math.perform (.plot expression) state = result at hends ⊢
  cases hends with
  | unread herror =>
    obtain ⟨formula, hformula⟩ := hparse
    rw [herror] at hformula
    cases hformula
  | outOfRange _ _ => rfl
  | empty _ hplottable _ => exact absurd hplottable hrange
  | drawn _ _ _ hplottable _ => exact absurd hplottable hrange

lemma refused_for_range_iff (expression : String) (state : Math.State) :
    (∃ range after, Math.perform (.plot expression) state =
        .error (.precondition (rangeRefusal range)) after) ↔
      Parses expression ∧ ¬ Plottable state.range := by
  refine ⟨?_, fun h => ⟨_, _, refused_of_not_plottable h.1 h.2⟩⟩
  rintro ⟨range, after, hrefused⟩
  have hends := plot_ends expression state
  rw [hrefused] at hends
  generalize hrefusal : rangeRefusal range = refusal at hends
  cases hends with
  | outOfRange hparse hrange => exact ⟨hparse, hrange⟩
  | empty => exact absurd hrefusal.symm (emptyRefusal_ne_rangeRefusal expression _ range)

lemma plot_fails_iff (hrange : Plottable state.range) (expression : String) :
    (∃ failure after, Math.perform (.plot expression) state = .error failure after) ↔
      (∃ e, parse expression = .error e) ∨
        ∃ formula, parse expression = .ok formula ∧ NoValues formula state.range := by
  have hends := plot_ends expression state
  generalize Math.perform (.plot expression) state = result at hends ⊢
  cases hends with
  | unread hparse => exact ⟨fun _ => .inl ⟨_, hparse⟩, fun _ => ⟨_, _, rfl⟩⟩
  | outOfRange hparse hbad => exact absurd hrange hbad
  | empty hparse _ hvalues => exact ⟨fun _ => .inr ⟨_, hparse, hvalues⟩, fun _ => ⟨_, _, rfl⟩⟩
  | drawn effect after hparse _ hvalues =>
    refine ⟨nofun, ?_⟩
    rintro (⟨e, herror⟩ | ⟨formula, hformula, hnone⟩)
    · rw [hparse] at herror
      cases herror
    · rw [hparse] at hformula
      cases hformula
      exact absurd hnone hvalues

/-! ### When samples are worked out -/

lemma plotWith_sample (expression : String) :
    Careful.plotWith (fun formula range width => .ok (Math.sample formula range width)) expression =
      plainly (Math.perform (.plot expression)) :=
  plot_eq expression

lemma plotWith_unasked (sampler : Sampler)
    (h : ¬ (Parses expression ∧ Plottable state.range)) :
    Careful.plotWith sampler expression state = plainly (Math.perform (.plot expression)) state := by
  rw [← plotWith_sample]
  unfold Careful.plotWith
  rw [parse_eq, check_guarded]
  cases hparse : parse expression with
  | error e => rfl
  | ok formula =>
    have hrange : ¬ Plottable state.range := fun hrange => h ⟨⟨formula, hparse⟩, hrange⟩
    have hspan := span_of_not_plottable hrange
    rw [span_eq] at hspan
    simp only [Handler.check, pure_bind, run_get]
    cases hcareful : Careful.span state.range with
    | ok width => rw [hcareful] at hspan; cases hspan
    | error e => rfl

lemma plotWith_broken (hparse : Parses expression)
    (hrange : Plottable state.range) (reason : Fault) :
    Careful.plotWith (fun _ _ _ => Careful.fail reason) expression state =
      .error (.fault reason) state := by
  obtain ⟨formula, hparse⟩ := hparse
  have hspan := span_of_plottable hrange
  rw [span_eq] at hspan
  unfold Careful.plotWith
  rw [parse_eq, check_guarded, hparse]
  simp only [Handler.check, pure_bind, run_get]
  cases hcareful : Careful.span state.range with
  | error e => rw [hcareful] at hspan; cases hspan
  | ok width => rfl

lemma samples_asked_iff (expression : String) (state : Math.State) :
    (∃ sampler, Careful.plotWith sampler expression state ≠
        plainly (Math.perform (.plot expression)) state) ↔
      Parses expression ∧ Plottable state.range := by
  constructor
  · rintro ⟨sampler, hdiffers⟩
    by_contra h
    exact hdiffers (plotWith_unasked sampler h)
  · rintro ⟨hparse, hrange⟩
    refine ⟨fun _ _ _ => Careful.fail .overflow, ?_⟩
    rw [plotWith_broken hparse hrange]
    unfold plainly EStateM.adaptExcept
    cases Math.perform (.plot expression) state <;> simp

/-! ### Ranges of all states that are come to -/

lemma perform_keeps_plottable (command : Math.Command) :
    Keeps (fun state => Plottable state.range) (fun _ => True) (Math.perform command) := by
  have hdraw (shape : Math.Shape) : Keeps (fun state => Plottable state.range) (fun _ => True)
      (Math.draw shape : Handler Refusal Math.State Unit) := keeps_modify fun _ h => h
  cases command with
  | setRange min max =>
    intro state hstate
    rw [perform_setRange]
    split
    · next h => exact h
    · trivial
  | plot expression =>
    refine keeps_check (fun formula _ => ?_) fun _ => trivial
    refine keeps_get fun state _ => keeps_check (fun width hwidth => ?_) fun _ => trivial
    refine (keeps_stopIf trivial).bind fun _ => keeps_change (fun state hstate => ?_) _
    exact hstate
  | circle x y radius =>
    refine Keeps.adaptExcept ?_ _ fun _ => trivial
    exact keeps_liftM (fun _ _ => (hdraw _).bind fun _ => keeps_pure _) fun _ _ => trivial
  | rectangle x y width height =>
    refine Keeps.adaptExcept ?_ _ fun _ => trivial
    refine keeps_liftM (fun _ _ => ?_) fun _ _ => trivial
    exact keeps_liftM (fun _ _ => (hdraw _).bind fun _ => keeps_pure _) fun _ _ => trivial
  | point x y label =>
    refine keeps_change (fun state hstate => ?_) _
    exact hstate
  | calculate expression =>
    refine Keeps.adaptExcept ?_ _ fun _ => trivial
    refine keeps_liftM (fun _ _ => ?_) fun _ _ => trivial
    refine keeps_liftM (fun _ _ => keeps_change (fun state hstate => ?_) _) fun _ _ => trivial
    exact hstate

lemma plottable_reached (commands : List Math.Command) :
    Plottable (reached Math.perform .initial commands).range := by
  refine history_induction math_atomic (motive := fun _ state => Plottable state.range) ?_ ?_ ?_ commands
  · decide
  · intro _ state command effect after hstate hperform
    have hends := perform_keeps_plottable command state hstate
    rwa [hperform] at hends
  · exact fun _ _ _ _ hstate => hstate

/-- Ranges of plots are guarded everywhere. For any two bounds of 64 bits a range is set exactly if they
are in order and at most 1000 apart, in exact numbers, and otherwise the state is as it was; by the
operations of a machine the same comes out, and no difference of bounds leaves its range. On every state,
whatever range a host has put there, a plot is refused for its range exactly if the expression is read and
the range cannot be plotted; the refusal names the range and leaves the state alone. A plot by the operations
of a machine comes out the same, and it depends on the sampler exactly if the expression is read and the
range can be plotted. The range of every state that commands come to from the first one can be plotted,
so that a plot then fails exactly if the expression is not read or has no finite value at any sample. -/
theorem plot_range_guarded :
    (∀ (state : Math.State) (min max : Int64),
      ((∃ effect after, Math.perform (.setRange min max) state = .ok effect after) ↔
        min < max ∧ max.toInt - min.toInt ≤ 1000) ∧
      (happen Math.perform state (.setRange min max)).after =
        { state with range := if Plottable ⟨min, max⟩ then ⟨min, max⟩ else state.range } ∧
      Careful.setRange min max state = plainly (Math.perform (.setRange min max)) state) ∧
    (∀ (state : Math.State) (expression : String),
      ((∃ range after, Math.perform (.plot expression) state =
          .error (.precondition (rangeRefusal range)) after) ↔
        Parses expression ∧ ¬ Plottable state.range) ∧
      (Math.perform (.plot expression) state =
          .error (.precondition (rangeRefusal state.range)) state ↔
        Parses expression ∧ ¬ Plottable state.range) ∧
      Careful.plotWith (fun formula range width => .ok (Math.sample formula range width)) expression state =
        plainly (Math.perform (.plot expression)) state ∧
      ((∃ sampler, Careful.plotWith sampler expression state ≠
          plainly (Math.perform (.plot expression)) state) ↔
        Parses expression ∧ Plottable state.range)) ∧
    ∀ commands : List Math.Command,
      let state := reached Math.perform .initial commands
      Plottable state.range ∧
      ∀ expression,
        (∃ failure after, Math.perform (.plot expression) state = .error failure after) ↔
          (∃ e, parse expression = .error e) ∨
            ∃ formula, parse expression = .ok formula ∧ NoValues formula state.range := by
  refine ⟨fun state min max => ⟨?_, ?_, congrFun (setRange_eq min max) state⟩, fun state expression =>
    ⟨refused_for_range_iff expression state, ?_, congrFun (plotWith_sample expression) state,
      samples_asked_iff expression state⟩, fun commands => ?_⟩
  · rw [perform_setRange]
    split
    · next h => exact ⟨fun _ => h, fun _ => ⟨_, _, rfl⟩⟩
    · next h => exact ⟨nofun, fun hrange => absurd hrange h⟩
  · rw [happen, perform_setRange]
    by_cases h : Plottable ⟨min, max⟩
    · simp only [h, if_true]
    · simp only [h, if_false]
  · exact ⟨fun h => (refused_for_range_iff expression state).1 ⟨_, _, h⟩, fun h =>
      refused_of_not_plottable h.1 h.2⟩
  · have hrange := plottable_reached commands
    exact ⟨hrange, plot_fails_iff hrange⟩

end Microworlds.Proofs

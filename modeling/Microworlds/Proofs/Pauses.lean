import Microworlds.Proofs.Replay

/-!
# Pauses of a replay

A replay waits before each frame. Before a step it waits as long as a step of its kind takes. Before a line
it waits for the pause between lines, unless the line has the first place among the results. So the first
line that is shown comes at once only if no line has failed before it.
-/

namespace Microworlds.Proofs

/-- The pauses before the frames that show a line itself. -/
def linePauses (shown : List Frame) : List Nat :=
  (shown.filter fun frame => frame.step.isNone).map Frame.delay

/-- The pauses before the frames that show a step of a line. -/
def stepPauses (shown : List Frame) : List Nat :=
  (shown.filter fun frame => frame.step.isSome).map Frame.delay

/-- What the steps of all lines take, each by its kind. -/
def stepDelays (timing : Timing) (results : List LineResult) : List Nat :=
  results.flatMap fun result => result.steps.map timing.delay

/-- How many lines are shown. -/
def shownLines (results : List LineResult) : Nat :=
  results.countP LineResult.isSuccess

/-- Whether there are results and the first one is a success. -/
def opensWithSuccess (results : List LineResult) : Bool :=
  results.head?.any LineResult.isSuccess

/-- The pauses before some lines if there is one between each line and the next. -/
def pausesBetween (pause : Nat) : Nat → List Nat
  | 0 => []
  | count + 1 => 0 :: List.replicate count pause

variable {timing : Timing} {results : List LineResult}

/-! ### Pauses of lines and of steps -/

lemma linePauses_append (first more : List Frame) :
    linePauses (first ++ more) = linePauses first ++ linePauses more := by
  simp [linePauses]

lemma stepPauses_append (first more : List Frame) :
    stepPauses (first ++ more) = stepPauses first ++ stepPauses more := by
  simp [stepPauses]

lemma sum_delay (shown : List Frame) :
    (shown.map Frame.delay).sum = (linePauses shown).sum + (stepPauses shown).sum := by
  have hnot : (fun frame : Frame => frame.step.isSome) = fun frame => !frame.step.isNone := by
    funext frame
    simp
  have hperm := List.filter_append_perm (fun frame : Frame => frame.step.isNone) shown
  rw [linePauses, stepPauses, hnot, ← List.sum_append, ← List.map_append]
  exact ((hperm.map Frame.delay).sum_nat).symm

lemma linePauses_lineFrames (timing : Timing) (index : Nat) (result : LineResult) :
    linePauses (lineFrames timing index result) =
      if result.isSuccess then [timing.lineDelay index] else [] := by
  unfold lineFrames linePauses
  split
  · simp [Frame.ofLine, Frame.ofStep, List.filter_map, Function.comp_def]
  · rfl

lemma stepPauses_lineFrames (timing : Timing) (index : Nat) (result : LineResult) :
    stepPauses (lineFrames timing index result) = result.steps.map timing.delay := by
  unfold lineFrames stepPauses LineResult.isSuccess LineResult.steps
  cases result.outcome with
  | success effect =>
    simp [Frame.ofLine, Frame.ofStep, List.filter_map, Function.comp_def]
  | failure kind reason => rfl

/-! ### Pauses of a run -/

lemma stepPauses_framesFrom (timing : Timing) (index : Nat) (results : List LineResult) :
    stepPauses (framesFrom timing index results) = stepDelays timing results := by
  induction results generalizing index with
  | nil => rfl
  | cons result more ih =>
    rw [framesFrom, stepPauses_append, stepPauses_lineFrames, ih, stepDelays, stepDelays,
      List.flatMap_cons]

lemma linePauses_framesFrom (timing : Timing) {index : Nat} (hindex : 0 < index)
    (results : List LineResult) : linePauses (framesFrom timing index results) =
      List.replicate (shownLines results) timing.betweenLines := by
  induction results generalizing index with
  | nil => rfl
  | cons result more ih =>
    have hdelay : timing.lineDelay index = timing.betweenLines := if_neg hindex.ne'
    rw [framesFrom, linePauses_append, linePauses_lineFrames, ih (Nat.succ_pos index), hdelay,
      shownLines, shownLines, List.countP_cons]
    cases result.isSuccess with
    | true => exact List.replicate_succ.symm
    | false => rfl

lemma linePauses_frames (timing : Timing) (results : List LineResult) :
    linePauses (frames timing results) =
      if opensWithSuccess results then pausesBetween timing.betweenLines (shownLines results)
      else List.replicate (shownLines results) timing.betweenLines := by
  cases results with
  | nil => rfl
  | cons result more =>
    have hdelay : timing.lineDelay 0 = 0 := if_pos rfl
    have hopens : opensWithSuccess (result :: more) = result.isSuccess := rfl
    rw [frames, framesFrom, linePauses_append, linePauses_lineFrames,
      linePauses_framesFrom timing (Nat.succ_pos 0), hdelay, hopens, shownLines, shownLines,
      List.countP_cons]
    cases result.isSuccess <;> rfl

lemma sum_pausesBetween (pause count : Nat) :
    (pausesBetween pause count).sum = pause * (count - 1) := by
  cases count with
  | zero => rfl
  | succ count => simp [pausesBetween, Nat.mul_comm]

lemma sum_linePauses (timing : Timing) (results : List LineResult) :
    (linePauses (frames timing results)).sum =
      timing.betweenLines * (shownLines results - if opensWithSuccess results then 1 else 0) := by
  rw [linePauses_frames]
  split
  · exact sum_pausesBetween _ _
  · rw [List.sum_replicate, smul_eq_mul, Nat.sub_zero, Nat.mul_comm]

lemma head?_linePauses (timing : Timing) (results : List LineResult) :
    (linePauses (frames timing results)).head? = (frames timing results).head?.map Frame.delay := by
  have hfrom : ∀ index, (linePauses (framesFrom timing index results)).head? =
      (framesFrom timing index results).head?.map Frame.delay := by
    induction results with
    | nil => exact fun _ => rfl
    | cons result more ih =>
      intro index
      cases hresult : result.isSuccess with
      | true =>
        rw [framesFrom_success hresult]
        rfl
      | false =>
        rw [framesFrom_failure hresult]
        exact ih (index + 1)
  exact hfrom 0

/-! ### Pauses that separate lines -/

/-- The pauses only separate shown lines from each other: the first result is shown, or nothing is, or a
pause takes no time. -/
def PausesSeparate (timing : Timing) (results : List LineResult) : Prop :=
  shownLines results = 0 ∨ opensWithSuccess results = true ∨ timing.betweenLines = 0

lemma replicate_eq_pausesBetween {pause count : Nat} :
    List.replicate count pause = pausesBetween pause count ↔ count = 0 ∨ pause = 0 := by
  cases count with
  | zero => simp [pausesBetween]
  | succ count => simp [pausesBetween, List.replicate_succ]

lemma linePauses_eq_iff (timing : Timing) (results : List LineResult) :
    linePauses (frames timing results) = pausesBetween timing.betweenLines (shownLines results) ↔
      PausesSeparate timing results := by
  rw [linePauses_frames, PausesSeparate]
  cases opensWithSuccess results with
  | true => simp
  | false => simp [replicate_eq_pausesBetween]

lemma sum_linePauses_eq_iff (timing : Timing) (results : List LineResult) :
    (linePauses (frames timing results)).sum = timing.betweenLines * (shownLines results - 1) ↔
      PausesSeparate timing results := by
  rw [sum_linePauses, PausesSeparate]
  cases opensWithSuccess results with
  | true => simp
  | false =>
    cases shownLines results with
    | zero => simp
    | succ count => simp [Nat.mul_succ]

/-- A replay waits between the lines that it shows, and before the first one if a line has failed in
front of it. Whatever the results and the timing are, each step is preceded by the pause of its kind.
If the first result is a success, its line is shown at once and there is a pause before every other
line; otherwise there is one before every line, the first one included. So a replay takes the time of
its steps and one pause for each line that is shown, the first of all results excepted. This is one
pause for each line but the first one shown exactly if the first result is a success, or nothing is
shown, or the pause takes no time. -/
theorem replay_waits_between_lines (timing : Timing) (results : List LineResult) :
    let shown := (Replay.start timing results).finish.1
    let pause := timing.betweenLines
    let count := shownLines results
    stepPauses shown = stepDelays timing results ∧
    linePauses shown = (if opensWithSuccess results then pausesBetween pause count
      else List.replicate count pause) ∧
    shown.head?.map Frame.delay = (linePauses shown).head? ∧
    (shown.map Frame.delay).sum = (stepDelays timing results).sum +
      pause * (count - if opensWithSuccess results then 1 else 0) ∧
    (linePauses shown = pausesBetween pause count ↔ PausesSeparate timing results) ∧
    ((shown.map Frame.delay).sum = (stepDelays timing results).sum + pause * (count - 1) ↔
      PausesSeparate timing results) := by
  intro shown pause count
  have hshown : shown = frames timing results := (finish_eq (Replay.start timing results)).1
  have hsteps : stepPauses (frames timing results) = stepDelays timing results :=
    stepPauses_framesFrom timing 0 results
  rw [hshown, sum_delay, hsteps, Nat.add_comm]
  refine ⟨rfl, linePauses_frames timing results, (head?_linePauses timing results).symm, ?_,
    linePauses_eq_iff timing results, ?_⟩
  · rw [sum_linePauses]
  · rw [Nat.add_left_cancel_iff]
    exact sum_linePauses_eq_iff timing results

/-- A line that fails in front of two others. -/
example :
    let failed : LineResult := ⟨1, "start", .failure .classification "unrecognized statement: start"⟩
    let first : LineResult := ⟨2, "sum = 0", .success (.plain "sum = 0")⟩
    let second : LineResult := ⟨3, "print sum", .success (.plain "0")⟩
    (frames .standard [failed, first, second]).map Frame.delay = [500000000, 500000000] ∧
    (frames .standard [first, failed, second]).map Frame.delay = [0, 500000000] := by
  decide

end Microworlds.Proofs

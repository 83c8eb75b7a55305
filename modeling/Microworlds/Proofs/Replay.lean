import Microworlds.Replay
import Mathlib

/-!
# What a replay shows

A replay shows the lines that succeeded, each followed by its steps, and then nothing more. What is still
to come of it is a list of frames at any time; a call for the next frame takes the first one off, and a
cancellation takes all of them. The same holds of a replay that keeps the position of its line and the
position of its step.
-/

namespace Microworlds.Proofs

/-! ### Calls -/

/-- What can be asked of a replay: the next frame, or to stop. -/
inductive ReplayCall where
  | next
  | cancel
  deriving DecidableEq

/-- Something that is asked for frames. -/
structure Player (σ : Type) where
  next : σ → Option Frame × σ
  cancel : σ → σ

variable {σ : Type}

/-- The answers to the calls for a next frame. -/
def Player.answers (player : Player σ) : σ → List ReplayCall → List (Option Frame)
  | _, [] => []
  | state, .next :: more => (player.next state).1 :: player.answers (player.next state).2 more
  | state, .cancel :: more => player.answers (player.cancel state) more

/-- A player with the frames that are still to come of each of its states. -/
structure Player.Shows (player : Player σ) (Rest : σ → List Frame → Prop) : Prop where
  next : ∀ state shown, Rest state shown →
    (player.next state).1 = shown.head? ∧ Rest (player.next state).2 shown.tail
  cancel : ∀ state shown, Rest state shown → Rest (player.cancel state) []

variable {player : Player σ} {Rest : σ → List Frame → Prop} {state : σ} {shown : List Frame}

lemma Player.Shows.answers_next (h : player.Shows Rest) (hstate : Rest state shown) (count : Nat)
    (later : List ReplayCall) :
    ∃ last, Rest last (shown.drop count) ∧
      player.answers state (List.replicate count .next ++ later) =
        (List.range count).map (shown[·]?) ++ player.answers last later := by
  induction count generalizing state shown with
  | zero => exact ⟨state, hstate, rfl⟩
  | succ count ih =>
    obtain ⟨hfirst, hmore⟩ := h.next state shown hstate
    obtain ⟨last, hlast, hanswers⟩ := ih hmore
    refine ⟨last, by rwa [List.drop_tail] at hlast, ?_⟩
    rw [List.replicate_succ, List.cons_append, Player.answers, hanswers, hfirst,
      List.range_succ_eq_map, List.map_cons, List.map_map, List.cons_append]
    simp [Function.comp_def, List.head?_eq_getElem?]

lemma Player.Shows.answers_nil (h : player.Shows Rest) (hstate : Rest state [])
    (calls : List ReplayCall) :
    player.answers state calls = List.replicate (calls.count .next) none := by
  induction calls generalizing state with
  | nil => rfl
  | cons call more ih =>
    cases call with
    | next =>
      obtain ⟨hfirst, hmore⟩ := h.next state [] hstate
      rw [Player.answers, hfirst, ih hmore, List.count_cons_self, List.replicate_succ]
      rfl
    | cancel =>
      have hother : (.cancel : ReplayCall) ≠ .next := by decide
      rw [Player.answers, ih (h.cancel state [] hstate), List.count_cons_of_ne hother]

/-! ### The frames of a run -/

/-- The frames of a result at its place: one for the line itself and one for each of its steps. A result
that failed has none. -/
def resultFrames (timing : Timing) (index : Nat) (result : LineResult) : List Frame :=
  match result.outcome with
  | .success effect =>
    { lineIndex := index, sourceLine := result.sourceLine, step := none,
      delay := if index = 0 then 0 else timing.betweenLines } ::
    effect.steps.map fun step =>
      { lineIndex := index, sourceLine := result.sourceLine, step := some step,
        delay := timing.delay step }
  | .failure .. => []

/-- The frames of all results of a run, in their order. -/
def runFrames (timing : Timing) (results : List LineResult) : List Frame :=
  results.zipIdx.flatMap fun (result, index) => resultFrames timing index result

variable {timing : Timing} {results lines : List LineResult} {index : Nat} {result : LineResult}

lemma lineFrames_eq (timing : Timing) (index : Nat) (result : LineResult) :
    lineFrames timing index result = resultFrames timing index result := by
  unfold lineFrames resultFrames LineResult.isSuccess LineResult.steps
  cases result.outcome <;> rfl

lemma framesFrom_eq (timing : Timing) (index : Nat) (results : List LineResult) :
    framesFrom timing index results =
      (results.zipIdx index).flatMap fun (result, index) => resultFrames timing index result := by
  induction results generalizing index with
  | nil => rfl
  | cons result more ih =>
    rw [framesFrom, lineFrames_eq, ih, List.zipIdx_cons, List.flatMap_cons]

lemma frames_eq (timing : Timing) (results : List LineResult) :
    frames timing results = runFrames timing results :=
  framesFrom_eq timing 0 results

lemma length_runFrames (timing : Timing) (results : List LineResult) :
    (runFrames timing results).length =
      ((results.filter LineResult.isSuccess).map fun result => result.steps.length + 1).sum := by
  have hfrom : ∀ index, ((results.zipIdx index).flatMap fun (result, index) =>
      resultFrames timing index result).length =
        ((results.filter LineResult.isSuccess).map fun result => result.steps.length + 1).sum := by
    induction results with
    | nil => exact fun _ => rfl
    | cons result more ih =>
      intro index
      rw [List.zipIdx_cons, List.flatMap_cons, List.length_append, ih]
      cases houtcome : result.outcome <;>
        simp [resultFrames, LineResult.isSuccess, LineResult.steps, houtcome]
  exact hfrom 0

lemma framesFrom_failure (h : result.isSuccess = false) :
    framesFrom timing index (result :: lines) = framesFrom timing (index + 1) lines := by
  simp [framesFrom, lineFrames, h]

lemma framesFrom_success (h : result.isSuccess = true) :
    framesFrom timing index (result :: lines) = .ofLine timing index result ::
      (result.steps.map (.ofStep timing index result) ++ framesFrom timing (index + 1) lines) := by
  simp [framesFrom, lineFrames, h]

/-! ### The replay -/

/-- A replay that is at its end stays there. -/
def replayPlayer : Player Replay where
  next replay :=
    match replay.next with
    | some (frame, rest) => (some frame, rest)
    | none => (none, replay)
  cancel := Replay.cancel

/-- The frames that are still to come of a replay. -/
def toCome (replay : Replay) : List Frame :=
  if replay.cancelled then []
  else match replay.current with
    | some (index, result, steps) =>
      steps.map (.ofStep replay.timing index result) ++
        framesFrom replay.timing replay.index replay.lines
    | none => framesFrom replay.timing replay.index replay.lines

lemma toCome_nextLine (timing : Timing) (index : Nat) (lines : List LineResult) :
    match Replay.nextLine timing index lines with
    | some (frame, rest) => framesFrom timing index lines = frame :: toCome rest
    | none => framesFrom timing index lines = [] := by
  induction lines generalizing index with
  | nil => rfl
  | cons result more ih =>
    rw [Replay.nextLine]
    cases hresult : result.isSuccess with
    | true => exact framesFrom_success hresult
    | false =>
      rw [framesFrom_failure hresult]
      exact ih (index + 1)

lemma toCome_next (replay : Replay) :
    match replay.next with
    | some (frame, rest) => toCome replay = frame :: toCome rest
    | none => toCome replay = [] := by
  obtain ⟨timing, current, index, lines, cancelled⟩ := replay
  cases cancelled with
  | true => rfl
  | false =>
    match current with
    | some (_, _, _ :: _) => rfl
    | some (_, _, []) => exact toCome_nextLine timing index lines
    | none => exact toCome_nextLine timing index lines

lemma replay_shows : replayPlayer.Shows fun replay shown => toCome replay = shown where
  next := by
    rintro replay _ rfl
    have hnext := toCome_next replay
    unfold replayPlayer
    dsimp only
    cases hreplay : replay.next with
    | none =>
      rw [hreplay] at hnext
      dsimp only at hnext ⊢
      rw [hnext]
      exact ⟨rfl, rfl⟩
    | some found =>
      rw [hreplay] at hnext
      dsimp only at hnext ⊢
      rw [hnext]
      exact ⟨rfl, rfl⟩
  cancel _ _ _ := rfl

lemma play_eq (replay : Replay) (count : Nat) :
    (replay.play count).1 = (toCome replay).take count ∧
      toCome (replay.play count).2 = (toCome replay).drop count := by
  induction count generalizing replay with
  | zero => exact ⟨rfl, rfl⟩
  | succ count ih =>
    have hnext := toCome_next replay
    rw [Replay.play]
    cases hreplay : replay.next with
    | none =>
      rw [hreplay] at hnext
      dsimp only at hnext ⊢
      rw [hnext]
      exact ⟨rfl, rfl⟩
    | some found =>
      rw [hreplay] at hnext
      dsimp only at hnext ⊢
      rw [hnext, List.take_succ_cons, List.drop_succ_cons]
      exact ⟨congrArg _ (ih found.2).1, (ih found.2).2⟩

lemma length_framesFrom_le (timing : Timing) (index : Nat) (lines : List LineResult) :
    (framesFrom timing index lines).length ≤ Replay.linesBound lines := by
  induction lines generalizing index with
  | nil => exact Nat.le_refl 0
  | cons result more ih =>
    have hmore := ih (index + 1)
    rw [Replay.linesBound]
    cases hresult : result.isSuccess with
    | true =>
      rw [framesFrom_success hresult]
      simp only [List.length_cons, List.length_append, List.length_map]
      omega
    | false =>
      rw [framesFrom_failure hresult]
      omega

lemma length_toCome_le (replay : Replay) : (toCome replay).length ≤ replay.bound := by
  obtain ⟨timing, current, index, lines, cancelled⟩ := replay
  have hlines := length_framesFrom_le timing index lines
  cases cancelled with
  | true => exact Nat.zero_le _
  | false =>
    match current with
    | some (_, _, steps) =>
      change (steps.map _ ++ _).length ≤ steps.length + Replay.linesBound lines
      rw [List.length_append, List.length_map]
      exact Nat.add_le_add_left hlines _
    | none => exact hlines

lemma finish_eq (replay : Replay) :
    replay.finish.1 = toCome replay ∧ toCome replay.finish.2 = [] := by
  obtain ⟨hshown, hrest⟩ := play_eq replay replay.bound
  have hlength := length_toCome_le replay
  exact ⟨hshown.trans (List.take_of_length_le hlength), hrest.trans (List.drop_of_length_le hlength)⟩

/-! ### A replay by positions -/

/-- Where a replay stands: the position of its line, and the position of the next step if the line has
been shown itself. -/
structure ReplayCursor where
  line : Nat
  step : Option Nat
  cancelled : Bool

namespace ReplayCursor

def start : ReplayCursor := ⟨0, none, false⟩

/-- The next frame from a position on. Lines that failed are passed over, and so are lines of which all
steps have been shown. -/
def advance (timing : Timing) (results : List LineResult) (line : Nat) (step : Option Nat) :
    Option Frame × ReplayCursor :=
  if h : line < results.length then
    if results[line].isSuccess then
      match step with
      | none => (some (.ofLine timing line results[line]), ⟨line, some 0, false⟩)
      | some i =>
        match results[line].steps[i]? with
        | some next => (some (.ofStep timing line results[line] next), ⟨line, some (i + 1), false⟩)
        | none => advance timing results (line + 1) none
    else advance timing results (line + 1) step
  else (none, ⟨line, step, false⟩)
termination_by results.length - line

/-- The frames that are to come from a position on. A line that has been shown itself succeeded. -/
inductive Comes (timing : Timing) (results : List LineResult) : ReplayCursor → List Frame → Prop
  | cancelled (line : Nat) (step : Option Nat) : Comes timing results ⟨line, step, true⟩ []
  | line (line : Nat) :
    Comes timing results ⟨line, none, false⟩ (framesFrom timing line (results.drop line))
  | step (line i : Nat) (h : line < results.length) (hsuccess : results[line].isSuccess = true) :
    Comes timing results ⟨line, some i, false⟩
      ((results[line].steps.drop i).map (.ofStep timing line results[line]) ++
        framesFrom timing (line + 1) (results.drop (line + 1)))

end ReplayCursor

def cursorPlayer (timing : Timing) (results : List LineResult) : Player ReplayCursor where
  next cursor :=
    if cursor.cancelled then (none, cursor)
    else ReplayCursor.advance timing results cursor.line cursor.step
  cancel cursor := { cursor with cancelled := true }

lemma advance_comes {line : Nat} {step : Option Nat}
    (h : ReplayCursor.Comes timing results ⟨line, step, false⟩ shown) :
    (ReplayCursor.advance timing results line step).1 = shown.head? ∧
      ReplayCursor.Comes timing results (ReplayCursor.advance timing results line step).2 shown.tail := by
  fun_induction ReplayCursor.advance timing results line step generalizing shown with
  | case1 line hline hsuccess =>
    cases h
    rw [← List.getElem_cons_drop hline, framesFrom_success hsuccess]
    exact ⟨rfl, .step line 0 hline hsuccess⟩
  | case2 line hline hsuccess i next hnext =>
    cases h
    obtain ⟨hi, rfl⟩ := List.getElem?_eq_some_iff.mp hnext
    rw [← List.getElem_cons_drop hi]
    exact ⟨rfl, .step line (i + 1) hline hsuccess⟩
  | case3 line hline hsuccess i hnext ih =>
    cases h
    rw [List.drop_eq_nil_of_le (List.getElem?_eq_none_iff.mp hnext)]
    exact ih (.line (line + 1))
  | case4 line step hline hfailure ih =>
    cases h with
    | line =>
      rw [← List.getElem_cons_drop hline, framesFrom_failure (Bool.eq_false_iff.mpr hfailure)]
      exact ih (.line (line + 1))
    | step _ i h hsuccess => exact absurd hsuccess hfailure
  | case5 line step hend =>
    cases h with
    | line =>
      have hcomes : ReplayCursor.Comes timing results ⟨line, none, false⟩ _ := .line line
      rw [List.drop_eq_nil_of_le (Nat.not_lt.mp hend)] at hcomes ⊢
      exact ⟨rfl, hcomes⟩
    | step _ i h hsuccess => exact absurd h hend

lemma cursor_shows (timing : Timing) (results : List LineResult) :
    (cursorPlayer timing results).Shows (ReplayCursor.Comes timing results) where
  next := by
    rintro ⟨line, step, cancelled⟩ shown h
    cases cancelled with
    | true =>
      cases h
      exact ⟨rfl, .cancelled line step⟩
    | false => exact advance_comes h
  cancel := fun cursor _ _ => .cancelled cursor.line cursor.step

/-! ### Replays of runs -/

/-- From a first state on, a player answers with the given frames in their order and then with nothing.
If it is cancelled after some frames, it answers with nothing from then on, whatever is called. -/
structure Player.Plays (player : Player σ) (start : σ) (shown : List Frame) : Prop where
  frames : ∀ count, player.answers start (List.replicate count .next) =
    (List.range count).map (shown[·]?)
  cancelled : ∀ count later,
    player.answers start (List.replicate count .next ++ .cancel :: later) =
      (List.range count).map (shown[·]?) ++ List.replicate (later.count .next) none

lemma Player.Shows.plays (h : player.Shows Rest) (hstate : Rest state shown) :
    player.Plays state shown where
  frames count := by
    obtain ⟨last, -, hanswers⟩ := h.answers_next hstate count []
    rw [List.append_nil] at hanswers
    exact hanswers.trans (List.append_nil _)
  cancelled count later := by
    obtain ⟨last, hlast, hanswers⟩ := h.answers_next hstate count (.cancel :: later)
    rw [hanswers, Player.answers, h.answers_nil (h.cancel last _ hlast)]

/-- A replay shows the lines that succeeded and their steps. There is one frame for each result that
succeeded, followed by one for each step of its effect, and none for a result that failed. The calls
for a next frame are answered with these in their order and then with nothing, and after a
cancellation with nothing. A replay by positions answers in the same way. The list of all frames, and
what a replay shows that is finished or stopped after some frames, agree with it. -/
theorem replay_shows_successes (timing : Timing) (results : List LineResult) :
    let shown := runFrames timing results
    let start := Replay.start timing results
    shown.length =
      ((results.filter LineResult.isSuccess).map fun result => result.steps.length + 1).sum ∧
    replayPlayer.Plays start shown ∧
    (cursorPlayer timing results).Plays ReplayCursor.start shown ∧
    frames timing results = shown ∧
    start.finish.1 = shown ∧ start.finish.2.next = none ∧
    ∀ count, (start.play count).1 = shown.take count ∧
      (start.play count).2.cancel.finish.1 = [] := by
  intro shown start
  have hstart : toCome start = shown := frames_eq timing results
  have hcursor : ReplayCursor.Comes timing results ReplayCursor.start shown := by
    have hline : ReplayCursor.Comes timing results .start _ := .line 0
    rwa [List.drop_zero, ← frames, frames_eq] at hline
  obtain ⟨hfinish, hend⟩ := finish_eq start
  refine ⟨length_runFrames timing results, replay_shows.plays hstart,
    (cursor_shows timing results).plays hcursor, frames_eq timing results,
    hfinish.trans hstart, ?_, fun count => ⟨?_, ?_⟩⟩
  · have hnext := toCome_next start.finish.2
    cases hfound : start.finish.2.next with
    | none => rfl
    | some found =>
      rw [hfound, hend] at hnext
      cases hnext
  · rw [(play_eq start count).1, hstart]
  · exact (finish_eq _).1

end Microworlds.Proofs

import Microworlds.LineResult
import Microworlds.Decimal.Shortest
import Microworlds.Word

/-!
# Replays

A replay shows the lines of a finished run that succeeded, and their steps, one frame after the other
with a pause before each. `Replay.next` goes from frame to frame and can be cancelled on the way;
`frames` lists what is shown if it is not.
-/

namespace Microworlds

structure Timing where
  compare : Nat
  swap : Nat
  settle : Nat
  accumulate : Nat
  other : Nat
  betweenLines : Nat
  deriving DecidableEq, Repr

namespace Timing

def milliseconds (n : Nat) : Nat := n * 1000000

def standard : Timing where
  compare := milliseconds 800
  swap := milliseconds 400
  settle := milliseconds 400
  accumulate := milliseconds 500
  other := milliseconds 300
  betweenLines := milliseconds 500

/-- The whole number of nanoseconds nearest to a time in seconds, a tie going to the even one. A time
of `2 ^ 64` seconds and more cannot be waited for. -/
def ofSeconds? (seconds : Float) : Option Nat := do
  let b ← Decimal.Binary.ofFloat seconds
  let value := b.mantissa * Nat.pow 2 b.exponent.toNat
  let unit := Nat.pow 2 (-b.exponent).toNat
  if value / unit ≤ Word.greatest64 then some (Decimal.roundRatio (value * 1000000000) unit)
  else none

/-- A pause as it is when everything goes `speed` times as fast. -/
def hurry? (speed : Float) (nanoseconds : Nat) : Option Nat :=
  ofSeconds? (Float.ofNat nanoseconds / 1e9 / speed)

/-- The pauses at a speed. A speed that is no positive number counts as the normal one. A speed so low
that a pause would be too long has no timing. -/
def scaled? (speed : Float) : Option Timing :=
  if speed.isFinite && 0 < speed then do
    return {
      compare := ← hurry? speed standard.compare
      swap := ← hurry? speed standard.swap
      settle := ← hurry? speed standard.settle
      accumulate := ← hurry? speed standard.accumulate
      other := ← hurry? speed standard.other
      betweenLines := ← hurry? speed standard.betweenLines }
  else some standard

/-- The pause before a step. -/
def delay (timing : Timing) : Step → Nat
  | .compare .. | .inspect .. => timing.compare
  | .swap .. | .heapSwap .. => timing.swap
  | .settle .. | .found .. => timing.settle
  | .accumulate .. => timing.accumulate
  | .visit .. | .move .. | .collect .. => timing.other

/-- The pause before a line, given its place among the results. -/
def lineDelay (timing : Timing) (index : Nat) : Nat :=
  if index = 0 then 0 else timing.betweenLines

end Timing

structure Frame where
  /-- The place of the line among the results. -/
  lineIndex : Nat
  sourceLine : String
  /-- The step shown; a frame without one shows the line itself. -/
  step : Option Step
  /-- The pause before the frame in nanoseconds. -/
  delay : Nat
  deriving DecidableEq, Repr

def Frame.ofLine (timing : Timing) (index : Nat) (result : LineResult) : Frame :=
  ⟨index, result.sourceLine, none, timing.lineDelay index⟩

/-- The frame of a step of a line. -/
def Frame.ofStep (timing : Timing) (index : Nat) (result : LineResult) (step : Step) : Frame :=
  ⟨index, result.sourceLine, some step, timing.delay step⟩

/-- The frames of a line: none if it failed. -/
def lineFrames (timing : Timing) (index : Nat) (result : LineResult) : List Frame :=
  if result.isSuccess then
    .ofLine timing index result :: result.steps.map (.ofStep timing index result)
  else []

/-- The frames of results of which the first one has the given place. -/
def framesFrom (timing : Timing) : Nat → List LineResult → List Frame
  | _, [] => []
  | index, result :: more => lineFrames timing index result ++ framesFrom timing (index + 1) more

/-- The frames of the results of a run. -/
def frames (timing : Timing) (results : List LineResult) : List Frame :=
  framesFrom timing 0 results

structure Replay where
  timing : Timing
  /-- The line that is being shown, with its place and the steps that are still to come. -/
  current : Option (Nat × LineResult × List Step)
  /-- The place of the first line after it. -/
  index : Nat
  /-- The lines that are still to come. -/
  lines : List LineResult
  cancelled : Bool

namespace Replay

/-- A replay before its first frame. -/
def start (timing : Timing) (results : List LineResult) : Replay :=
  ⟨timing, none, 0, results, false⟩

def cancel (replay : Replay) : Replay :=
  { replay with cancelled := true }

/-- The next line that succeeded becomes the current one. -/
def nextLine (timing : Timing) : Nat → List LineResult → Option (Frame × Replay)
  | _, [] => none
  | index, result :: more =>
    if result.isSuccess then
      some (.ofLine timing index result,
        ⟨timing, some (index, result, result.steps), index + 1, more, false⟩)
    else nextLine timing (index + 1) more

/-- The next frame, if the replay has not come to its end. -/
def next (replay : Replay) : Option (Frame × Replay) :=
  if replay.cancelled then none
  else match replay.current with
    | some (index, result, step :: more) =>
      some (.ofStep replay.timing index result step,
        { replay with current := some (index, result, more) })
    | _ => nextLine replay.timing replay.index replay.lines

/-- At most the given number of frames, and the replay after them. -/
def play (replay : Replay) : Nat → List Frame × Replay
  | 0 => ([], replay)
  | count + 1 =>
    match replay.next with
    | none => ([], replay)
    | some (frame, replay) =>
      let (more, last) := replay.play count
      (frame :: more, last)

/-- At least as many frames as these lines can give: one for every line, and one for every step. -/
def linesBound : List LineResult → Nat
  | [] => 0
  | result :: rest => result.steps.length + 1 + linesBound rest

/-- At least as many frames as are still to come, those of the line being shown included. -/
def bound (replay : Replay) : Nat :=
  match replay.current with
  | some (_, _, steps) => steps.length + linesBound replay.lines
  | none => linesBound replay.lines

/-- All frames that are still to come, and the replay after them. -/
def finish (replay : Replay) : List Frame × Replay :=
  replay.play replay.bound

end Replay

end Microworlds

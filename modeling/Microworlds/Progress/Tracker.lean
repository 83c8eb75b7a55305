import Microworlds.Progress.Record

/-!
# Tracking progress

A tracker holds a learner's record and the store that keeps it. A completed lesson counts once the
store has taken the new record, so after a failed save it can be completed again.
-/

namespace Microworlds.Progress

/-- A way to keep a record in a place of type `σ`, with failures of type `ε`. -/
structure Store (σ ε : Type) where
  load : σ → Except ε (Option Record)
  /-- Keeps a record. A failed save can change the place as well. -/
  save : Record → σ → Except ε Unit × σ

/-- The store that keeps a record in memory and never fails. -/
def Store.memory : Store (Option Record) Empty where
  load place := .ok place
  save record _ := (.ok (), some record)

/-- A record together with the place where it is kept. -/
structure Tracker (σ : Type) where
  place : σ
  record : Record

/-- Why the completion of a lesson is not rewarded. -/
inductive Setback (ε : Type) where
  | store (error : ε)
  /-- The experience or the stars leave their range. -/
  | overflow
  deriving DecidableEq, Repr

namespace Tracker

variable {σ ε : Type}

/-- A tracker of the record in a place; where there is none, of the initial one. -/
def load (store : Store σ ε) (place : σ) : Except ε (Tracker σ) :=
  (store.load place).map fun kept => ⟨place, kept.getD .initial⟩

/-- Keeps a new record and then goes on with it. -/
def commit (store : Store σ ε) (tracker : Tracker σ) (next : Record) :
    Except (Setback ε) Unit × Tracker σ :=
  match store.save next tracker.place with
  | (.ok (), place) => (.ok (), ⟨place, next⟩)
  | (.error e, place) => (.error (.store e), { tracker with place })

/-- Completes a lesson at a time. Nothing comes of a lesson that no course has. -/
def complete (store : Store σ ε) (tracker : Tracker σ) (scenario : Scenario) (id : String)
    (time : Instant) : Except (Setback ε) (Option Reward) × Tracker σ :=
  match course? scenario with
  | none => (.ok none, tracker)
  | some course =>
    match course.lesson? id with
    | none => (.ok none, tracker)
    | some lesson =>
      if tracker.record.hasCompleted course lesson then
        (.ok (some .alreadyCompleted), tracker)
      else match tracker.record.complete? course lesson time with
        | none => (.error .overflow, tracker)
        | some (next, grant) =>
          let (kept, tracker) := tracker.commit store next
          (kept.map fun _ => some (.granted grant), tracker)

/-- Completes the lesson that the blocks of a scenario belong to. -/
def completeCurrent (store : Store σ ε) (tracker : Tracker σ) (scenario : Scenario)
    (time : Instant) : Except (Setback ε) (Option Reward) × Tracker σ :=
  tracker.complete store scenario (currentLesson scenario) time

end Tracker

end Microworlds.Progress

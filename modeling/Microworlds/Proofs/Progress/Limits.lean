import Microworlds.Proofs.Progress.Completion

/-!
# The limits of a record

A store can hand back any record: with any experience, level and stars, and with completed lessons and
courses that do not belong to them. The completion of a further lesson is exact for each of them, unless
the experience or the stars leave the range of their counters.
-/

namespace Microworlds.Proofs

open Progress

variable {offer : Course × CourseLesson} {record next : Record} {time : Instant}

/-- The other lessons of the course are completed, and the course is not listed yet. -/
def EarnsStar (record : Record) (offer : Course × CourseLesson) : Prop :=
  (∀ lesson ∈ offer.1.lessons, lesson = offer.2 ∨ record.hasCompleted offer.1 lesson = true) ∧
    offer.1.scenario ∉ record.completedCourses

instance (record : Record) (offer : Course × CourseLesson) : Decidable (EarnsStar record offer) :=
  inferInstanceAs (Decidable ((∀ lesson ∈ offer.1.lessons,
    lesson = offer.2 ∨ record.hasCompleted offer.1 lesson = true) ∧ _))

/-- The experience or the stars are too many after the completion of a lesson. -/
def LeavesRange (record : Record) (offer : Course × CourseLesson) : Prop :=
  Word.greatest32 < record.totalXp.toNat + offer.2.xp.toNat ∨
    EarnsStar record offer ∧ Word.greatest32 < record.stars.toNat + 1

instance (record : Record) (offer : Course × CourseLesson) : Decidable (LeavesRange record offer) :=
  inferInstanceAs (Decidable (_ < _ ∨ EarnsStar record offer ∧ _))

/-- A record after the completion of a lesson, in exact numbers. -/
structure Completes (record : Record) (offer : Course × CourseLesson) (time : Instant)
    (next : Record) : Prop where
  lessons : next.completedLessons = record.completedLessons.insert (catalogKey offer) time
  xp : next.totalXp.toNat = record.totalXp.toNat + offer.2.xp.toNat
  level : next.level.toNat = next.totalXp.toNat / 100 + 1
  star : EarnsStar record offer →
    next.stars.toNat = record.stars.toNat + 1 ∧
      next.completedCourses = record.completedCourses ++ [offer.1.scenario]
  noStar : ¬EarnsStar record offer →
    next.stars = record.stars ∧ next.completedCourses = record.completedCourses

lemma offer?_of_mem (h : offer ∈ catalog) : offer? offer.1.scenario offer.2.id = some offer := by
  have hall : ∀ offer ∈ catalog, offer? offer.1.scenario offer.2.id = some offer := by
    decide +kernel
  exact hall offer h

lemma hasFinished_of_insert (hoffer : offer ∈ catalog)
    (h : next.completedLessons = record.completedLessons.insert (catalogKey offer) time) :
    next.hasFinished offer.1 = true ↔
      ∀ lesson ∈ offer.1.lessons, lesson = offer.2 ∨ record.hasCompleted offer.1 lesson = true := by
  rw [hasFinished_iff]
  refine forall₂_congr fun lesson hlesson => ?_
  have hmem : (offer.1, lesson) ∈ catalog := mem_catalog.mpr ⟨(mem_catalog.mp hoffer).1, hlesson⟩
  have hkey : lessonKey offer.1.scenario lesson.id = catalogKey offer ↔ lesson = offer.2 :=
    ⟨fun hsame => congrArg Prod.snd (catalogKey_inj hmem hoffer hsame), fun hsame => hsame ▸ rfl⟩
  unfold Record.hasCompleted
  rw [h, contains_insert, hkey]

lemma stars_withLesson (hoffer : offer ∈ catalog) (xp : UInt32) :
    Stars (withLesson record offer time xp) offer.1 ↔ EarnsStar record offer :=
  and_congr_left' (hasFinished_of_insert hoffer rfl)

lemma complete?_of_leavesRange (hoffer : offer ∈ catalog) (time : Instant)
    (h : LeavesRange record offer) : record.complete? offer.1 offer.2 time = none := by
  rw [complete?_eq]
  by_cases hxp : record.totalXp.toNat + offer.2.xp.toNat ≤ Word.greatest32
  · obtain ⟨hstar, hfull⟩ := h.resolve_left (Nat.not_lt.mpr hxp)
    obtain ⟨xp, hlesson, -⟩ := addLesson?_of_le offer time hxp
    have hcourse : (withLesson record offer time xp).addCourse? offer.1 = none :=
      addCourse?_of_gt ((stars_withLesson hoffer xp).mpr hstar) hfull
    rw [hlesson, Option.bind_some, hcourse, Option.map_none]
  · rw [addLesson?_of_gt time (Nat.not_le.mp hxp)]
    rfl

lemma Follows.completes (h : Follows record offer time next) (hoffer : offer ∈ catalog) :
    Completes record offer time next := by
  have hstarred : (next.hasFinished offer.1 = true ∧
      offer.1.scenario ∉ record.completedCourses) ↔ EarnsStar record offer :=
    and_congr_left' (hasFinished_of_insert hoffer h.lessons)
  have hscenarios := h.scenarios
  have hcount := h.stars
  constructor
  case lessons => exact h.lessons
  case xp => exact h.xp
  case level => rw [h.level, toNat_levelOf]
  case star =>
    intro hstar
    rw [if_pos (hstarred.mpr hstar)] at hscenarios
    rw [hscenarios, List.length_append, List.length_singleton] at hcount
    exact ⟨by omega, hscenarios⟩
  case noStar =>
    intro hnone
    rw [if_neg (mt hstarred.mp hnone)] at hscenarios
    rw [hscenarios] at hcount
    exact ⟨UInt32.toNat_inj.mp (by omega), hscenarios⟩

lemma complete?_of_not_leavesRange (hoffer : offer ∈ catalog) (time : Instant)
    (h : ¬LeavesRange record offer) :
    ∃ next, record.complete? offer.1 offer.2 time = some (next, earned record offer next) ∧
      Completes record offer time next := by
  rw [LeavesRange, not_or, not_and, Nat.not_lt] at h
  obtain ⟨next, hcomplete, hnext⟩ := complete?_of_le offer time h.1 fun xp hstar =>
    Nat.not_lt.mp (h.2 ((stars_withLesson hoffer xp).mp hstar))
  exact ⟨next, hcomplete, hnext.completes hoffer⟩

section

variable {σ ε : Type} (store : Store σ ε) (tracker : Tracker σ)

/-- A completion is exact within the range of the counters. A lesson of the catalog that a record
does not have is completed in exact numbers, whatever else the record says; then the save alone decides
whether it counts, and a refused save leaves the record as it was. If the experience or the stars leave
their range, then the completion breaks off with nothing changed, and it does so in no other case. -/
theorem completion_exact_within_range (hoffer : offer ∈ catalog)
    (hnew : ¬tracker.record.hasCompleted offer.1 offer.2 = true) (time : Instant) :
    (LeavesRange tracker.record offer ∧
      tracker.complete store offer.1.scenario offer.2.id time = (.error .overflow, tracker)) ∨
    (¬LeavesRange tracker.record offer ∧
      ∃ next, Completes tracker.record offer time next ∧
        ((∃ place, store.save next tracker.place = (.ok (), place) ∧
            tracker.complete store offer.1.scenario offer.2.id time =
              (.ok (some (.granted (earned tracker.record offer next))), ⟨place, next⟩)) ∨
          ∃ e place, store.save next tracker.place = (.error e, place) ∧
            tracker.complete store offer.1.scenario offer.2.id time =
              (.error (.store e), ⟨place, tracker.record⟩))) := by
  have hfound := offer?_of_mem hoffer
  by_cases hleaves : LeavesRange tracker.record offer
  · exact .inl ⟨hleaves,
      complete_overflows hfound hnew (complete?_of_leavesRange hoffer time hleaves)⟩
  · obtain ⟨next, hcomplete, hnext⟩ := complete?_of_not_leavesRange hoffer time hleaves
    refine .inr ⟨hleaves, next, hnext, ?_⟩
    rw [complete_commits hfound hnew hcomplete]
    rcases hsave : store.save next tracker.place with ⟨⟨⟩ | e, place⟩
    case error => exact .inr ⟨_, place, rfl, by rw [commit_of_error hsave]; rfl⟩
    case ok => exact .inl ⟨place, rfl, by rw [commit_of_ok hsave]; rfl⟩

end

/-- A record whose experience and stars do not belong to its three lessons. -/
def inflated (xp stars : UInt32) : Record where
  totalXp := xp
  level := 7
  completedLessons := .ofList [("programming_loops", ⟨1, 0⟩), ("programming_variables", ⟨2, 0⟩),
    ("programming_conditions", ⟨3, 0⟩)]
  completedCourses := []
  stars := stars

/-- The fourth lesson of the course is completed over a store in memory. -/
def fourthCompleted (record : Record) :
    Except (Setback Empty) (Option Reward) × Tracker (Option Record) :=
  Tracker.complete .memory ⟨none, record⟩ .programming "basic_output" ⟨4, 0⟩

theorem inflated_completed_up_to_limits :
    (∃ next, (fourthCompleted (inflated 4294967285 4294967294)).2 = ⟨some next, next⟩ ∧
      next.totalXp.toNat = 4294967295 ∧ next.level.toNat = 42949673 ∧
      next.stars.toNat = 4294967295 ∧ next.completedCourses = [.programming]) ∧
    fourthCompleted (inflated 4294967286 0) = (.error .overflow, ⟨none, inflated 4294967286 0⟩) ∧
    fourthCompleted (inflated 0 4294967295) = (.error .overflow, ⟨none, inflated 0 4294967295⟩) := by
  have hoffer : catalog.head (by decide +kernel) ∈ catalog := List.head_mem _
  refine ⟨?_, ?_, ?_⟩
  · obtain ⟨hleaves, -⟩ | ⟨-, next, hnext, ⟨place, hsave, hresult⟩ | ⟨e, -⟩⟩ :=
      completion_exact_within_range .memory ⟨none, inflated 4294967285 4294967294⟩ hoffer
        (by decide +kernel) ⟨4, 0⟩
    · exact absurd hleaves (by decide +kernel)
    · cases hsave
      have hxp := hnext.xp
      have hstars := hnext.star (by decide +kernel)
      have hlevel := hnext.level
      rw [hxp] at hlevel
      exact ⟨next, congrArg Prod.snd hresult, hxp, hlevel, hstars⟩
    · exact e.elim
  · obtain ⟨-, hresult⟩ | ⟨hwithin, -⟩ :=
      completion_exact_within_range .memory ⟨none, inflated 4294967286 0⟩ hoffer (by decide +kernel)
        ⟨4, 0⟩
    · exact hresult
    · exact absurd hwithin (by decide +kernel)
  · obtain ⟨-, hresult⟩ | ⟨hwithin, -⟩ :=
      completion_exact_within_range .memory ⟨none, inflated 0 4294967295⟩ hoffer (by decide +kernel)
        ⟨4, 0⟩
    · exact hresult
    · exact absurd hwithin (by decide +kernel)

end Microworlds.Proofs

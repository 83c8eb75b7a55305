import Microworlds.Proofs.Progress.Completion

/-!
# The account of a learner's progress

Lessons are completed in any order, repeatedly, and under names that no course has. The record says of
each lesson of the catalog when it was first completed. Experience, level, courses and stars are worked
out step by step; they are always those that belong to the completed lessons.
-/

namespace Microworlds.Proofs

open Progress

/-! ### Calls on a tracker -/

/-- A call on a tracker. -/
inductive Completion where
  /-- A lesson is completed at a time. -/
  | lesson (scenario : Scenario) (id : String) (time : Instant)
  /-- The lesson that the blocks of a scenario belong to is completed at a time. -/
  | current (scenario : Scenario) (time : Instant)

abbrev Upshot := Except (Setback Empty) (Option Reward)

namespace Completion

def time : Completion → Instant
  | lesson _ _ time | current _ time => time

/-- The lesson of the catalog that a call names. -/
def named? : Completion → Option (Course × CourseLesson)
  | lesson scenario id _ => offer? scenario id
  | current scenario _ => offer? scenario (currentLesson scenario)

def carryOut (tracker : Tracker (Option Record)) : Completion → Upshot × Tracker (Option Record)
  | lesson scenario id time => tracker.complete .memory scenario id time
  | current scenario time => tracker.completeCurrent .memory scenario time

end Completion

/-- What comes of calls that are made one after the other. -/
def upshots : Tracker (Option Record) → List Completion → List Upshot
  | _, [] => []
  | tracker, call :: more => (call.carryOut tracker).1 :: upshots (call.carryOut tracker).2 more

/-- The tracker after some calls. -/
def tracked (tracker : Tracker (Option Record)) (calls : List Completion) : Tracker (Option Record) :=
  calls.foldl (fun tracker call => (call.carryOut tracker).2) tracker

/-- When a lesson of the catalog was first named. -/
def firstTime (calls : List Completion) (offer : Course × CourseLesson) : Option Instant :=
  (calls.find? fun call => call.named? == some offer).map Completion.time

variable {calls : List Completion} {call : Completion} {tracker : Tracker (Option Record)}
  {offer : Course × CourseLesson}

lemma tracked_append (tracker : Tracker (Option Record)) (calls : List Completion) (call : Completion) :
    tracked tracker (calls ++ [call]) = (call.carryOut (tracked tracker calls)).2 := by
  unfold tracked
  rw [List.foldl_append]
  rfl

lemma upshots_append (tracker : Tracker (Option Record)) (calls : List Completion) (call : Completion) :
    upshots tracker (calls ++ [call]) =
      upshots tracker calls ++ [(call.carryOut (tracked tracker calls)).1] := by
  induction calls generalizing tracker with
  | nil => rfl
  | cons first more ih =>
    change _ :: upshots _ (more ++ [call]) = _
    rw [ih]
    rfl

lemma firstTime_append (calls : List Completion) (call : Completion) (offer : Course × CourseLesson) :
    firstTime (calls ++ [call]) offer =
      (firstTime calls offer).or (if call.named? = some offer then some call.time else none) := by
  unfold firstTime
  rw [List.find?_append, Option.map_or]
  by_cases h : call.named? = some offer
  · simp [h]
  · simp [h]

lemma isSome_firstTime :
    (firstTime calls offer).isSome = true ↔ offer ∈ calls.filterMap Completion.named? := by
  simp [firstTime, List.find?_isSome]

lemma named?_mem (h : call.named? = some offer) : offer ∈ catalog := by
  cases call with
  | lesson scenario id time => exact offer?_mem h
  | current scenario time => exact offer?_mem h

lemma carryOut_eq (call : Completion) (tracker : Tracker (Option Record)) :
    ∃ scenario id, call.named? = offer? scenario id ∧
      call.carryOut tracker = tracker.complete .memory scenario id call.time := by
  cases call with
  | lesson scenario id time => exact ⟨scenario, id, rfl, rfl⟩
  | current scenario time => exact ⟨scenario, currentLesson scenario, rfl, rfl⟩

/-! ### Outcomes -/

/-- What comes of a call, and the tracker that it leaves. -/
inductive CallOutcome (call : Completion) (tracker : Tracker (Option Record)) :
    Upshot → Tracker (Option Record) → Prop
  | unknown (hunknown : call.named? = none) : CallOutcome call tracker (.ok none) tracker
  | repeated (offer : Course × CourseLesson) (hoffer : call.named? = some offer)
      (hdone : offer ∈ completed tracker.record) :
    CallOutcome call tracker (.ok (some .alreadyCompleted)) tracker
  | first (offer : Course × CourseLesson) (next : Record) (grant : Grant)
      (hoffer : call.named? = some offer) (hnew : offer ∉ completed tracker.record)
      (hnext : Follows tracker.record offer call.time next) :
    CallOutcome call tracker (.ok (some (.granted grant))) ⟨some next, next⟩

lemma callOutcome (call : Completion) (tracker : Tracker (Option Record))
    (hxp : ∀ offer ∈ catalog, offer ∉ completed tracker.record →
      tracker.record.totalXp.toNat + offer.2.xp.toNat ≤ Word.greatest32)
    (hstars : tracker.record.stars.toNat + 1 ≤ Word.greatest32) :
    CallOutcome call tracker (call.carryOut tracker).1 (call.carryOut tracker).2 := by
  obtain ⟨scenario, id, hnamed, hcarried⟩ := carryOut_eq call tracker
  rw [hcarried]
  cases hoffer : offer? scenario id with
  | none =>
    rw [complete_unknown hoffer]
    exact .unknown (hnamed.trans hoffer)
  | some offer =>
    have hcatalog := offer?_mem hoffer
    by_cases hdone : offer ∈ completed tracker.record
    · rw [complete_repeated hoffer ((mem_completed_iff hcatalog).mp hdone)]
      exact .repeated offer (hnamed.trans hoffer) hdone
    · have hopen := mt (mem_completed_iff hcatalog).mpr hdone
      obtain ⟨next, hcomplete, hnext⟩ :=
        complete?_of_le offer call.time (hxp offer hcatalog hdone) fun _ _ => hstars
      rw [complete_commits hoffer hopen hcomplete]
      exact .first offer next _ (hnamed.trans hoffer) hdone hnext

/-! ### The account -/

/-- A record is the one that belongs to some calls. -/
structure Account (calls : List Completion) (record : Record) : Prop where
  /-- The lessons that were named are completed, since the time when they were named first. -/
  times : ∀ offer ∈ catalog,
    record.completedLessons.find? (catalogKey offer) = firstTime calls offer
  keys : ∀ key, record.completedLessons.contains key = true →
    ∃ course ∈ courses, ∃ lesson ∈ course.lessons, key = course.scenario.name ++ "_" ++ lesson.id
  xp : record.totalXp.toNat = worthOf (completed record)
  level : record.level.toNat = record.totalXp.toNat / 100 + 1
  distinct : record.completedCourses.Nodup
  /-- The completed courses are those of which all lessons are completed. -/
  scenarios : ∀ scenario, scenario ∈ record.completedCourses ↔
    ∃ course ∈ courses, course.scenario = scenario ∧
      ∀ lesson ∈ course.lessons, record.hasCompleted course lesson = true
  stars : record.stars.toNat = record.completedCourses.length

namespace Account

variable {record next : Record}

lemma initial : Account [] .initial where
  times := fun _ _ => rfl
  keys := nofun
  xp := by decide +kernel
  level := rfl
  distinct := .nil
  scenarios := by
    have hunfinished : ∀ course ∈ courses, Record.initial.hasFinished course = false := by
      decide +kernel
    refine fun scenario => ⟨nofun, ?_⟩
    rintro ⟨course, hcourse, -, hall⟩
    have hfinished := hasFinished_iff.mpr hall
    rw [hunfinished course hcourse] at hfinished
    cases hfinished
  stars := rfl

lemma mem_completed (h : Account calls record) :
    offer ∈ completed record ↔ offer ∈ calls.filterMap Completion.named? := by
  have htime : offer ∈ catalog → (record.completedLessons.contains (catalogKey offer) = true ↔
      offer ∈ calls.filterMap Completion.named?) := by
    intro hoffer
    unfold Table.contains
    rw [h.times offer hoffer, isSome_firstTime]
  rw [Proofs.mem_completed]
  constructor
  · exact fun ⟨hoffer, hdone⟩ => (htime hoffer).mp hdone
  · intro hmem
    obtain ⟨call, -, hnamed⟩ := List.mem_filterMap.mp hmem
    exact ⟨named?_mem hnamed, (htime (named?_mem hnamed)).mpr hmem⟩

lemma room_for_lesson (h : Account calls record) (hoffer : offer ∈ catalog)
    (hnew : offer ∉ completed record) :
    record.totalXp.toNat + offer.2.xp.toNat ≤ Word.greatest32 := by
  have hnodup : (offer :: completed record).Nodup :=
    List.nodup_cons.mpr ⟨hnew, catalog_nodup.filter _⟩
  have hcatalog : offer :: completed record ⊆ catalog :=
    List.cons_subset.mpr ⟨hoffer, List.filter_subset_self _⟩
  have hle := worthOf_le hnodup hcatalog
  have hworth : worthOf (offer :: completed record) = offer.2.xp.toNat + worthOf (completed record) := rfl
  rw [h.xp]
  omega

lemma room_for_course (h : Account calls record) : record.stars.toNat + 1 ≤ Word.greatest32 := by
  have hscenarios : record.completedCourses ⊆ courses.map Course.scenario := by
    intro scenario hscenario
    obtain ⟨course, hcourse, rfl, -⟩ := (h.scenarios scenario).mp hscenario
    exact List.mem_map_of_mem hcourse
  have hlength : record.completedCourses.length ≤ 6 := (h.distinct.subperm hscenarios).length_le
  have hgreatest : Word.greatest32 = 4294967295 := rfl
  rw [h.stars]
  omega

lemma outcome (h : Account calls tracker.record) (call : Completion) :
    CallOutcome call tracker (call.carryOut tracker).1 (call.carryOut tracker).2 :=
  callOutcome call tracker (fun _ => h.room_for_lesson) h.room_for_course

lemma keep (h : Account calls record)
    (hcall : ∀ offer, call.named? = some offer → offer ∈ completed record) :
    Account (calls ++ [call]) record := by
  refine { h with times := fun offer hoffer => ?_ }
  rw [firstTime_append, h.times offer hoffer]
  by_cases hnamed : call.named? = some offer
  · have hbefore := isSome_firstTime.mpr (h.mem_completed.mp (hcall offer hnamed))
    obtain ⟨time, htime⟩ := Option.isSome_iff_exists.mp hbefore
    rw [htime, Option.some_or]
  · rw [if_neg hnamed, Option.or_none]

lemma grow (h : Account calls record) (hoffer : call.named? = some offer)
    (hnew : offer ∉ completed record) (hnext : Follows record offer call.time next) :
    Account (calls ++ [call]) next := by
  have hcatalog := named?_mem hoffer
  constructor
  case times =>
    intro other hother
    rw [hnext.lessons, find?_insert, firstTime_append, hoffer]
    by_cases heq : other = offer
    · have hnone : firstTime calls other = none := by
        rw [heq, ← Option.not_isSome_iff_eq_none, isSome_firstTime, ← h.mem_completed]
        exact hnew
      rw [hnone, heq, if_pos rfl, if_pos rfl, Option.none_or]
    · have hkey : catalogKey other ≠ catalogKey offer := mt (catalogKey_inj hother hcatalog) heq
      have hnamed : some offer ≠ some other := fun hsome => heq (Option.some.inj hsome).symm
      rw [if_neg hkey, if_neg hnamed, Option.or_none, h.times other hother]
  case keys =>
    intro key hkey
    rw [hnext.lessons, contains_insert] at hkey
    rcases hkey with rfl | hbefore
    · obtain ⟨hcourse, hlesson⟩ := mem_catalog.mp hcatalog
      exact ⟨offer.1, hcourse, offer.2, hlesson, rfl⟩
    · exact h.keys key hbefore
  case xp =>
    have hworth : worthOf (completed next) = offer.2.xp.toNat + worthOf (completed record) :=
      ((hnext.completed_perm hcatalog hnew).map _).sum_nat
    rw [hnext.xp, h.xp, hworth]
    omega
  case level => rw [hnext.level, toNat_levelOf]
  case distinct => exact hnext.scenarios_nodup h.distinct
  case scenarios =>
    intro scenario
    rw [hnext.mem_scenarios, h.scenarios]
    constructor
    · rintro (⟨course, hcourse, rfl, hall⟩ | ⟨rfl, hfinished⟩)
      · have hafter := (hnext.hasFinished_iff hcatalog hcourse).mpr (.inl (hasFinished_iff.mpr hall))
        exact ⟨course, hcourse, rfl, hasFinished_iff.mp hafter⟩
      · exact ⟨offer.1, (mem_catalog.mp hcatalog).1, rfl, hasFinished_iff.mp hfinished⟩
    · rintro ⟨course, hcourse, rfl, hall⟩
      rcases (hnext.hasFinished_iff hcatalog hcourse).mp (hasFinished_iff.mpr hall) with
        hbefore | ⟨rfl, hfinished⟩
      · exact .inl ⟨course, hcourse, rfl, hasFinished_iff.mp hbefore⟩
      · exact .inr ⟨rfl, hfinished⟩
  case stars =>
    have hstars := hnext.stars
    have hbefore := h.stars
    omega

lemma step {upshot : Upshot} {after : Tracker (Option Record)} (h : Account calls tracker.record)
    (houtcome : CallOutcome call tracker upshot after) : Account (calls ++ [call]) after.record := by
  cases houtcome with
  | unknown hunknown => exact h.keep fun offer hoffer => nomatch hunknown.symm.trans hoffer
  | repeated offer hoffer hdone =>
    refine h.keep fun other hother => ?_
    cases hoffer.symm.trans hother
    exact hdone
  | first offer next grant hoffer hnew hnext => exact h.grow hoffer hnew hnext

lemma determined {others : List Completion} {other : Record} (h : Account calls record)
    (hother : Account others other) (hcompleted : completed other = completed record) :
    other.totalXp = record.totalXp ∧ other.level = record.level ∧ other.stars = record.stars ∧
      ∀ scenario, scenario ∈ other.completedCourses ↔ scenario ∈ record.completedCourses := by
  have hxp : other.totalXp.toNat = record.totalXp.toNat := by
    rw [h.xp, hother.xp, hcompleted]
  have hlevel : other.level.toNat = record.level.toNat := by
    rw [h.level, hother.level, hxp]
  have hdone : ∀ course ∈ courses, ∀ lesson ∈ course.lessons,
      (other.hasCompleted course lesson = true ↔ record.hasCompleted course lesson = true) := by
    intro course hcourse lesson hlesson
    have hcatalog := mem_catalog.mpr ⟨hcourse, hlesson⟩
    rw [← mem_completed_iff hcatalog, ← mem_completed_iff hcatalog, hcompleted]
  have hscenarios : ∀ scenario,
      scenario ∈ other.completedCourses ↔ scenario ∈ record.completedCourses := by
    intro scenario
    rw [h.scenarios, hother.scenarios]
    constructor
    · rintro ⟨course, hcourse, hscenario, hall⟩
      exact ⟨course, hcourse, hscenario, fun lesson hlesson =>
        (hdone course hcourse lesson hlesson).mp (hall lesson hlesson)⟩
    · rintro ⟨course, hcourse, hscenario, hall⟩
      exact ⟨course, hcourse, hscenario, fun lesson hlesson =>
        (hdone course hcourse lesson hlesson).mpr (hall lesson hlesson)⟩
  have hstars : other.stars.toNat = record.stars.toNat := by
    rw [h.stars, hother.stars]
    exact ((List.perm_ext_iff_of_nodup hother.distinct h.distinct).mpr hscenarios).length_eq
  exact ⟨UInt32.toNat_inj.mp hxp, UInt32.toNat_inj.mp hlevel, UInt32.toNat_inj.mp hstars, hscenarios⟩

lemma completed_eq {others : List Completion} {other : Record} (h : Account calls record)
    (hother : Account others other)
    (hsame : ∀ offer, offer ∈ calls.filterMap Completion.named? ↔
      offer ∈ others.filterMap Completion.named?) : completed other = completed record := by
  refine List.filter_congr fun offer hoffer => Bool.eq_iff_iff.mpr ?_
  change other.hasCompleted offer.1 offer.2 = true ↔ record.hasCompleted offer.1 offer.2 = true
  rw [← mem_completed_iff hoffer, ← mem_completed_iff hoffer, h.mem_completed, hother.mem_completed,
    hsame]

lemma hundred_percent_iff (h : Account calls record) (scenario : Scenario) :
    (∃ progress, record.courseProgress? scenario = some progress ∧ progress.percentage = 100) ↔
      scenario ∈ record.completedCourses := by
  rw [h.scenarios]
  constructor
  · rintro ⟨progress, hprogress, hpercentage⟩
    rw [courseProgress?_eq] at hprogress
    obtain ⟨course, hcourse, rfl⟩ := Option.map_eq_some_iff.mp hprogress
    obtain ⟨hmem, hscenario⟩ := course?_eq_some.mp hcourse
    exact ⟨course, hmem, hscenario, (percentage_iff hmem).mp hpercentage⟩
  · rintro ⟨course, hcourse, rfl, hall⟩
    refine ⟨progressIn record course, ?_, (percentage_iff hcourse).mpr hall⟩
    rw [courseProgress?_eq, course?_eq_some.mpr ⟨hcourse, rfl⟩]
    rfl

end Account

/-! ### All calls -/

/-- A tracker over a store in which nothing has been kept. -/
def newcomer : Tracker (Option Record) := ⟨none, .initial⟩

lemma account_tracked (calls : List Completion) : Account calls (tracked newcomer calls).record := by
  induction calls using List.reverseRecOn with
  | nil => exact .initial
  | append_singleton calls call ih =>
    rw [tracked_append]
    exact ih.step (ih.outcome call)

/-- No call has failed, and the store holds the record if a lesson was granted. -/
structure Kept (upshots : List Upshot) (tracker : Tracker (Option Record)) : Prop where
  answered : ∀ upshot ∈ upshots, ∃ reward, upshot = .ok reward
  granted : (∃ grant, .ok (some (.granted grant)) ∈ upshots) → tracker.place = some tracker.record
  ungranted : (∀ grant, .ok (some (.granted grant)) ∉ upshots) → tracker.place = none

lemma Kept.ungranting {upshots : List Upshot} {reward : Option Reward} (h : Kept upshots tracker)
    (hreward : ∀ grant, reward ≠ some (.granted grant)) : Kept (upshots ++ [.ok reward]) tracker := by
  have hmem : ∀ grant, (.ok (some (.granted grant)) : Upshot) ∈ upshots ++ [.ok reward] ↔
      .ok (some (.granted grant)) ∈ upshots := by
    intro grant
    have hne : (.ok (some (.granted grant)) : Upshot) ≠ .ok reward :=
      fun heq => hreward grant (Except.ok.inj heq).symm
    rw [List.mem_append, List.mem_singleton, or_iff_left hne]
  refine ⟨fun upshot hupshot => ?_, fun ⟨grant, hgrant⟩ => ?_, fun hnone => ?_⟩
  · rcases List.mem_append.mp hupshot with hbefore | hlast
    · exact h.answered upshot hbefore
    · exact ⟨reward, List.mem_singleton.mp hlast⟩
  · exact h.granted ⟨grant, (hmem grant).mp hgrant⟩
  · exact h.ungranted fun grant => mt (hmem grant).mpr (hnone grant)

lemma Kept.step {upshots : List Upshot} {upshot : Upshot} {after : Tracker (Option Record)}
    (h : Kept upshots tracker) (houtcome : CallOutcome call tracker upshot after) :
    Kept (upshots ++ [upshot]) after := by
  cases houtcome with
  | unknown => exact h.ungranting nofun
  | repeated => exact h.ungranting nofun
  | first offer next grant =>
    have hgrant : (.ok (some (.granted grant)) : Upshot) ∈ upshots ++ [.ok (some (.granted grant))] :=
      List.mem_concat_self
    refine ⟨fun upshot hupshot => ?_, fun _ => rfl, fun hnone => absurd hgrant (hnone grant)⟩
    rcases List.mem_append.mp hupshot with hbefore | hlast
    · exact h.answered upshot hbefore
    · exact ⟨some (.granted grant), List.mem_singleton.mp hlast⟩

lemma kept_tracked (calls : List Completion) :
    Kept (upshots newcomer calls) (tracked newcomer calls) := by
  induction calls using List.reverseRecOn with
  | nil => exact ⟨nofun, nofun, fun _ => rfl⟩
  | append_singleton calls call ih =>
    rw [tracked_append, upshots_append]
    exact ih.step ((account_tracked calls).outcome call)

/-- Progress adds up, whatever lessons are completed, in whatever order and how often, also under
names that no course has. No call fails. The record is the one that belongs to the lessons of the catalog
that were named: each is kept with the time when it was first named, the experience is that of all of
them, the level is that of the experience, the completed courses are listed once each, and there are as
many stars. A course is at a hundred percent if and only if it is completed. Once a lesson was granted,
the store holds the record; before that it is empty. So calls that name the same lessons lead to the same
experience, level, stars and courses. -/
theorem progress_adds_up (calls : List Completion) :
    let tracker := tracked newcomer calls
    let record := tracker.record
    Tracker.load Store.memory none = .ok newcomer ∧
    Account calls record ∧
    (∀ scenario,
      (∃ progress, record.courseProgress? scenario = some progress ∧ progress.percentage = 100) ↔
        scenario ∈ record.completedCourses) ∧
    Kept (upshots newcomer calls) tracker ∧
    ∀ others : List Completion,
      (∀ offer, offer ∈ calls.filterMap Completion.named? ↔
        offer ∈ others.filterMap Completion.named?) →
      let other := (tracked newcomer others).record
      other.totalXp = record.totalXp ∧ other.level = record.level ∧ other.stars = record.stars ∧
        ∀ scenario, scenario ∈ other.completedCourses ↔ scenario ∈ record.completedCourses := by
  intro tracker record
  have haccount : Account calls record := account_tracked calls
  refine ⟨rfl, haccount, haccount.hundred_percent_iff, kept_tracked calls, fun others hsame => ?_⟩
  have hothers := account_tracked others
  exact haccount.determined hothers (haccount.completed_eq hothers hsame)

/-- A whole course with two repetitions, a lesson of another course, and names that no course has. -/
def term : List Completion :=
  [.lesson .programming "loops" ⟨5, 0⟩, .lesson .hash "loops" ⟨6, 0⟩, .current .programming ⟨7, 0⟩,
    .lesson .programming "loops" ⟨8, 0⟩, .lesson .programming "variables" ⟨9, 0⟩, .current .hash ⟨9, 0⟩,
    .lesson .programming "conditions" ⟨10, 0⟩, .lesson .game "scoring" ⟨11, 0⟩,
    .lesson .programming "basic_output" ⟨12, 0⟩, .lesson .math "loops" ⟨13, 0⟩]

/-- The same lessons in another order. -/
def retakenTerm : List Completion :=
  [.lesson .game "scoring" ⟨1, 0⟩, .lesson .game "scoring" ⟨2, 0⟩, .lesson .programming "loops" ⟨3, 0⟩,
    .lesson .programming "conditions" ⟨3, 0⟩, .lesson .programming "variables" ⟨4, 0⟩,
    .current .programming ⟨5, 0⟩]

theorem retaken_term_adds_up :
    (tracked newcomer term).record.completedLessons.find? "programming_loops" = some ⟨5, 0⟩ ∧
    (tracked newcomer term).record.level.toNat = 95 / 100 + 1 ∧
    (tracked newcomer term).place = some (tracked newcomer term).record ∧
    (tracked newcomer retakenTerm).record.totalXp = 95 ∧
    (tracked newcomer retakenTerm).record.stars = 1 ∧
    .programming ∈ (tracked newcomer retakenTerm).record.completedCourses := by
  obtain ⟨-, haccount, -, hkept, hothers⟩ := progress_adds_up term
  have hthere : ∀ offer ∈ term.filterMap Completion.named?,
      offer ∈ retakenTerm.filterMap Completion.named? := by decide +kernel
  have hback : ∀ offer ∈ retakenTerm.filterMap Completion.named?,
      offer ∈ term.filterMap Completion.named? := by decide +kernel
  obtain ⟨hxp, -, hstars, hscenarios⟩ :=
    hothers retakenTerm fun offer => ⟨hthere offer, hback offer⟩
  have hrecord : (tracked newcomer term).record.totalXp = 95 ∧
      (tracked newcomer term).record.stars = 1 ∧
      (tracked newcomer term).record.completedCourses = [.programming] := by decide +kernel
  have hgrant : (upshots newcomer term).head? =
      some (.ok (some (.granted ⟨25, 25, 1, false, false, 0⟩))) := by decide +kernel
  refine ⟨?_, ?_, ?_, ?_, ?_, ?_⟩
  · have htime := haccount.times (⟨.programming, "Programming basics", _⟩, ⟨"loops", "Loops", 25⟩)
      (.tail _ (.tail _ (.tail _ (.head _))))
    exact htime
  · rw [haccount.level, hrecord.1]
    rfl
  · exact hkept.granted ⟨_, List.mem_of_mem_head? hgrant⟩
  · rw [hxp, hrecord.1]
  · rw [hstars, hrecord.2.1]
  · rw [hscenarios, hrecord.2.2]
    exact .head _

end Microworlds.Proofs

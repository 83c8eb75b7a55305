import Microworlds.Progress.Tracker
import Microworlds.Proofs.Stock

/-!
# The completion of a lesson

The catalog has all lessons with their courses, each under a key of its own. A lesson of it that is
completed for the first time is put into the record; all lessons together are not worth more than a
counter can hold, so this does not fail.
-/

namespace Microworlds.Proofs

open Progress

/-! ### The catalog -/

/-- All lessons that can be completed, each with its course. -/
def catalog : List (Course × CourseLesson) :=
  courses.flatMap fun course => course.lessons.map fun lesson => (course, lesson)

/-- The key of a lesson in a record. -/
def catalogKey (offer : Course × CourseLesson) : String :=
  lessonKey offer.1.scenario offer.2.id

/-- The lesson of the catalog with an identifier, in the course on a scenario. -/
def offer? (scenario : Scenario) (id : String) : Option (Course × CourseLesson) := do
  let course ← course? scenario
  return (course, ← course.lesson? id)

variable {course : Course} {lesson : CourseLesson} {offer other : Course × CourseLesson}
  {scenario : Scenario} {id : String} {time : Instant} {record : Record}

lemma mem_catalog : (course, lesson) ∈ catalog ↔ course ∈ courses ∧ lesson ∈ course.lessons := by
  simp [catalog]

lemma catalogKeys_nodup : (catalog.map catalogKey).Nodup := by
  decide +kernel

lemma catalog_nodup : catalog.Nodup :=
  catalogKeys_nodup.of_map

lemma catalogKey_inj (hoffer : offer ∈ catalog) (hother : other ∈ catalog)
    (h : catalogKey offer = catalogKey other) : offer = other :=
  List.inj_on_of_nodup_map catalogKeys_nodup hoffer hother h

lemma course?_eq_some :
    course? scenario = some course ↔ course ∈ courses ∧ course.scenario = scenario := by
  have hfound : ∀ course ∈ courses, course? course.scenario = some course := by decide +kernel
  constructor
  · intro h
    exact ⟨List.mem_of_find?_eq_some h, by simpa using List.find?_some h⟩
  · rintro ⟨hcourse, rfl⟩
    exact hfound course hcourse

lemma offer?_eq_some (h : offer? scenario id = some (course, lesson)) :
    course? scenario = some course ∧ course.lesson? id = some lesson := by
  unfold offer? at h
  cases hcourse : course? scenario with
  | none => simp [hcourse] at h
  | some found =>
    cases hlesson : found.lesson? id with
    | none => simp [hcourse, hlesson] at h
    | some foundLesson =>
      obtain ⟨rfl, rfl⟩ : found = course ∧ foundLesson = lesson := by simpa [hcourse, hlesson] using h
      exact ⟨rfl, hlesson⟩

lemma offer?_mem (h : offer? scenario id = some offer) : offer ∈ catalog := by
  obtain ⟨course, lesson⟩ := offer
  obtain ⟨hcourse, hlesson⟩ := offer?_eq_some h
  exact mem_catalog.mpr ⟨(course?_eq_some.mp hcourse).1, List.mem_of_find?_eq_some hlesson⟩

/-! ### What is completed -/

/-- The completed lessons of the catalog. -/
def completed (record : Record) : List (Course × CourseLesson) :=
  catalog.filter fun (course, lesson) => record.hasCompleted course lesson

def worthOf (offers : List (Course × CourseLesson)) : Nat :=
  (offers.map fun offer => offer.2.xp.toNat).sum

lemma worthOf_le_all {offers : List (Course × CourseLesson)} (hnodup : offers.Nodup)
    (hoffers : offers ⊆ catalog) : worthOf offers ≤ 595 := by
  have hall : worthOf catalog = 595 := by decide +kernel
  obtain ⟨some, hperm, hsublist⟩ := hnodup.subperm hoffers
  have hworth : worthOf some = worthOf offers := (hperm.map _).sum_nat
  have hle : worthOf some ≤ worthOf catalog := (hsublist.map _).sum_le_sum fun _ _ => Nat.zero_le _
  omega

lemma worthOf_le {offers : List (Course × CourseLesson)} (hnodup : offers.Nodup)
    (hoffers : offers ⊆ catalog) : worthOf offers ≤ Word.greatest32 :=
  (worthOf_le_all hnodup hoffers).trans (by decide)

lemma mem_completed : offer ∈ completed record ↔
    offer ∈ catalog ∧ record.completedLessons.contains (catalogKey offer) = true := by
  unfold completed
  rw [List.mem_filter]
  rfl

lemma mem_completed_iff (hoffer : offer ∈ catalog) :
    offer ∈ completed record ↔ record.hasCompleted offer.1 offer.2 = true :=
  mem_completed.trans (and_iff_right hoffer)

lemma hasFinished_iff : record.hasFinished course = true ↔
    ∀ lesson ∈ course.lessons, record.hasCompleted course lesson = true :=
  List.all_eq_true

/-- How far a record has come in a course. -/
def progressIn (record : Record) (course : Course) : CourseProgress :=
  let completed := course.lessons.countP (record.hasCompleted course)
  ⟨completed, course.lessons.length, completed * 100 / course.lessons.length⟩

lemma courseProgress?_eq (record : Record) (scenario : Scenario) :
    record.courseProgress? scenario = (course? scenario).map (progressIn record) := by
  unfold Record.courseProgress?
  cases course? scenario <;> rfl

lemma percentage_iff (hcourse : course ∈ courses) :
    (progressIn record course).percentage = 100 ↔
      ∀ lesson ∈ course.lessons, record.hasCompleted course lesson = true := by
  have hlessons : ∀ course ∈ courses, 0 < course.lessons.length := by decide +kernel
  have hpositive := hlessons course hcourse
  have hle : course.lessons.countP (record.hasCompleted course) ≤ course.lessons.length :=
    List.countP_le_length
  rw [← List.countP_eq_length]
  change _ * 100 / _ = 100 ↔ _
  rw [Nat.div_eq_iff hpositive]
  omega

lemma toNat_levelOf (xp : UInt32) : (levelOf xp).toNat = xp.toNat / 100 + 1 := by
  have hxp := xp.toNat_lt
  unfold levelOf
  rw [UInt32.toNat_add, UInt32.toNat_div]
  change (xp.toNat / 100 + 1) % _ = _
  omega

/-! ### A completion -/

/-- What the completion of a lesson makes of a record. -/
structure Follows (record : Record) (offer : Course × CourseLesson) (time : Instant) (next : Record) :
    Prop where
  lessons : next.completedLessons = record.completedLessons.insert (catalogKey offer) time
  xp : next.totalXp.toNat = record.totalXp.toNat + offer.2.xp.toNat
  level : next.level = levelOf next.totalXp
  scenarios : next.completedCourses =
    if next.hasFinished offer.1 = true ∧ offer.1.scenario ∉ record.completedCourses
    then record.completedCourses ++ [offer.1.scenario] else record.completedCourses
  stars : next.stars.toNat + record.completedCourses.length =
    record.stars.toNat + next.completedCourses.length

/-- The record with a lesson and the experience that it is worth, before its course is looked at. -/
def withLesson (record : Record) (offer : Course × CourseLesson) (time : Instant) (xp : UInt32) :
    Record :=
  { record with
    totalXp := xp
    level := levelOf xp
    completedLessons := record.completedLessons.insert (catalogKey offer) time }

lemma addLesson?_of_le (offer : Course × CourseLesson) (time : Instant)
    (h : record.totalXp.toNat + offer.2.xp.toNat ≤ Word.greatest32) :
    ∃ xp, record.addLesson? offer.1 offer.2 time = some (withLesson record offer time xp) ∧
      xp.toNat = record.totalXp.toNat + offer.2.xp.toNat := by
  obtain ⟨xp, hsum, hxp⟩ := sum?_of_le h
  refine ⟨xp, ?_, hxp⟩
  unfold Record.addLesson?
  rw [hsum]
  rfl

lemma addLesson?_of_gt (time : Instant)
    (h : Word.greatest32 < record.totalXp.toNat + offer.2.xp.toNat) :
    record.addLesson? offer.1 offer.2 time = none := by
  unfold Record.addLesson?
  rw [sum?_of_gt h]
  rfl

/-- A course gets a star if it is finished and has none yet. -/
def Stars (record : Record) (course : Course) : Prop :=
  record.hasFinished course = true ∧ course.scenario ∉ record.completedCourses

lemma stars_iff : (record.hasFinished course && !record.completedCourses.contains course.scenario) =
    true ↔ Stars record course := by
  simp [Stars]

lemma addCourse?_of_le (record : Record) (course : Course)
    (h : Stars record course → record.stars.toNat + 1 ≤ Word.greatest32) :
    ∃ scenarios stars, record.addCourse? course =
        some { record with completedCourses := scenarios, stars } ∧
      scenarios = (if record.hasFinished course = true ∧ course.scenario ∉ record.completedCourses
        then record.completedCourses ++ [course.scenario] else record.completedCourses) ∧
      stars.toNat + record.completedCourses.length = record.stars.toNat + scenarios.length := by
  have hone : (1 : UInt32).toNat = 1 := rfl
  unfold Record.addCourse?
  by_cases hfirst : Stars record course
  · obtain ⟨stars, hsum, hstars⟩ := sum?_of_le (a := record.stars) (b := 1) (h hfirst)
    refine ⟨_, stars, ?_, (if_pos hfirst).symm, ?_⟩
    · rw [if_pos (stars_iff.mpr hfirst), hsum]
      rfl
    · rw [hstars, hone, List.length_append, List.length_singleton]
      omega
  · exact ⟨_, record.stars, if_neg (mt stars_iff.mp hfirst), (if_neg hfirst).symm, rfl⟩

lemma addCourse?_of_gt (h : Stars record course) (hfull : Word.greatest32 < record.stars.toNat + 1) :
    record.addCourse? course = none := by
  unfold Record.addCourse?
  rw [if_pos (stars_iff.mpr h), sum?_of_gt hfull]
  rfl

/-- What the completion of a lesson has earned, by the record that it leads to. -/
def earned (record : Record) (offer : Course × CourseLesson) (next : Record) : Grant where
  xpGained := offer.2.xp
  totalXp := next.totalXp
  level := next.level
  levelUp := record.level < next.level
  courseCompleted := next.hasFinished offer.1
  stars := next.stars

lemma complete?_eq (record : Record) (offer : Course × CourseLesson) (time : Instant) :
    record.complete? offer.1 offer.2 time =
      ((record.addLesson? offer.1 offer.2 time).bind fun added => added.addCourse? offer.1).map
        fun next => (next, earned record offer next) := by
  unfold Record.complete?
  cases record.addLesson? offer.1 offer.2 time with
  | none => rfl
  | some added =>
    change (added.addCourse? offer.1 >>= _) = (added.addCourse? offer.1).map _
    cases added.addCourse? offer.1 <;> rfl

lemma complete?_of_le (offer : Course × CourseLesson) (time : Instant)
    (hxp : record.totalXp.toNat + offer.2.xp.toNat ≤ Word.greatest32)
    (hstars : ∀ xp, Stars (withLesson record offer time xp) offer.1 →
      record.stars.toNat + 1 ≤ Word.greatest32) :
    ∃ next, record.complete? offer.1 offer.2 time = some (next, earned record offer next) ∧
      Follows record offer time next := by
  obtain ⟨xp, hlesson, hxp⟩ := addLesson?_of_le offer time hxp
  obtain ⟨scenarios, stars, hcourse, hscenarios, hstars⟩ :=
    addCourse?_of_le (withLesson record offer time xp) offer.1 (hstars xp)
  refine ⟨{ withLesson record offer time xp with completedCourses := scenarios, stars }, ?_, rfl,
    hxp, rfl, hscenarios, hstars⟩
  rw [complete?_eq, hlesson]
  change ((withLesson record offer time xp).addCourse? offer.1).map _ = _
  rw [hcourse, Option.map_some]

/-! ### A completion over a store -/

section

variable {σ ε : Type} {store : Store σ ε} {tracker : Tracker σ}

lemma complete_unknown (h : offer? scenario id = none) :
    tracker.complete store scenario id time = (.ok none, tracker) := by
  unfold Tracker.complete
  cases hcourse : course? scenario with
  | none => rfl
  | some course =>
    cases hlesson : course.lesson? id with
    | none => simp only [hlesson]
    | some lesson => simp [offer?, hcourse, hlesson] at h

lemma complete_repeated (h : offer? scenario id = some offer)
    (hdone : tracker.record.hasCompleted offer.1 offer.2 = true) :
    tracker.complete store scenario id time = (.ok (some .alreadyCompleted), tracker) := by
  obtain ⟨hcourse, hlesson⟩ := offer?_eq_some h
  simp [Tracker.complete, hcourse, hlesson, hdone]

/-- What comes of a lesson that was not completed before depends on the save alone. -/
lemma complete_commits {next : Record} {grant : Grant} (h : offer? scenario id = some offer)
    (hnew : ¬tracker.record.hasCompleted offer.1 offer.2 = true)
    (hcomplete : tracker.record.complete? offer.1 offer.2 time = some (next, grant)) :
    tracker.complete store scenario id time =
      ((tracker.commit store next).1.map fun _ => some (.granted grant),
        (tracker.commit store next).2) := by
  obtain ⟨hcourse, hlesson⟩ := offer?_eq_some h
  simp [Tracker.complete, hcourse, hlesson, hnew, hcomplete]

lemma complete_overflows (h : offer? scenario id = some offer)
    (hnew : ¬tracker.record.hasCompleted offer.1 offer.2 = true)
    (hcomplete : tracker.record.complete? offer.1 offer.2 time = none) :
    tracker.complete store scenario id time = (.error .overflow, tracker) := by
  obtain ⟨hcourse, hlesson⟩ := offer?_eq_some h
  simp [Tracker.complete, hcourse, hlesson, hnew, hcomplete]

lemma commit_of_ok {next : Record} {place : σ} (h : store.save next tracker.place = (.ok (), place)) :
    tracker.commit store next = (.ok (), ⟨place, next⟩) := by
  unfold Tracker.commit
  rw [h]

lemma commit_of_error {next : Record} {e : ε} {place : σ}
    (h : store.save next tracker.place = (.error e, place)) :
    tracker.commit store next = (.error (.store e), ⟨place, tracker.record⟩) := by
  unfold Tracker.commit
  rw [h]

end

/-! ### What has changed -/

namespace Follows

variable {next : Record}

lemma completed_perm (h : Follows record offer time next) (hoffer : offer ∈ catalog)
    (hnew : offer ∉ completed record) : (completed next).Perm (offer :: completed record) := by
  have hbefore : (offer :: completed record).Nodup :=
    List.nodup_cons.mpr ⟨hnew, catalog_nodup.filter _⟩
  refine (List.perm_ext_iff_of_nodup (catalog_nodup.filter _) hbefore).mpr fun other => ?_
  rw [List.mem_cons]
  change other ∈ completed next ↔ _
  rw [mem_completed, mem_completed, h.lessons, contains_insert]
  constructor
  · rintro ⟨hother, hkey | hdone⟩
    · exact .inl (catalogKey_inj hother hoffer hkey)
    · exact .inr ⟨hother, hdone⟩
  · rintro (rfl | ⟨hother, hdone⟩)
    · exact ⟨hoffer, .inl rfl⟩
    · exact ⟨hother, .inr hdone⟩

lemma hasFinished_iff (h : Follows record offer time next) (hoffer : offer ∈ catalog)
    (hcourse : course ∈ courses) : next.hasFinished course = true ↔
      record.hasFinished course = true ∨ course = offer.1 ∧ next.hasFinished offer.1 = true := by
  have hcompleted : ∀ lesson, next.hasCompleted course lesson = true ↔
      catalogKey (course, lesson) = catalogKey offer ∨ record.hasCompleted course lesson = true := by
    intro lesson
    unfold Record.hasCompleted
    rw [h.lessons, contains_insert]
    rfl
  constructor
  · intro hfinished
    by_cases heq : course = offer.1
    · exact .inr ⟨heq, heq ▸ hfinished⟩
    · left
      rw [Proofs.hasFinished_iff] at hfinished ⊢
      intro lesson hlesson
      rcases (hcompleted lesson).mp (hfinished lesson hlesson) with hkey | hdone
      · have hsame := catalogKey_inj (mem_catalog.mpr ⟨hcourse, hlesson⟩) hoffer hkey
        exact absurd (congrArg Prod.fst hsame) heq
      · exact hdone
  · rintro (hfinished | ⟨rfl, hfinished⟩)
    · rw [Proofs.hasFinished_iff] at hfinished ⊢
      exact fun lesson hlesson => (hcompleted lesson).mpr (.inr (hfinished lesson hlesson))
    · exact hfinished

lemma mem_scenarios (h : Follows record offer time next) : scenario ∈ next.completedCourses ↔
    scenario ∈ record.completedCourses ∨
      scenario = offer.1.scenario ∧ next.hasFinished offer.1 = true := by
  rw [h.scenarios]
  by_cases hfirst : next.hasFinished offer.1 = true ∧ offer.1.scenario ∉ record.completedCourses
  · simp [hfirst]
  · rw [if_neg hfirst]
    constructor
    · exact .inl
    · rintro (hmem | ⟨rfl, hfinished⟩)
      · exact hmem
      · exact not_not.mp fun hnot => hfirst ⟨hfinished, hnot⟩

lemma scenarios_nodup (h : Follows record offer time next) (hnodup : record.completedCourses.Nodup) :
    next.completedCourses.Nodup := by
  rw [h.scenarios]
  split
  · next hfirst => exact List.concat_eq_append ▸ hnodup.concat hfirst.2
  · exact hnodup

end Follows

end Microworlds.Proofs

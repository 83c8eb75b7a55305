import Microworlds.Counter
import Microworlds.Progress.Catalog
import Microworlds.Time.Instant

/-!
# Records of progress

What a learner has completed, and the experience, level and stars this has earned. A lesson is worth
its experience once, and a course its star once.
-/

namespace Microworlds.Progress

structure Record where
  totalXp : UInt32
  level : UInt32
  /-- The completed lessons by `lessonKey`, each with the time at which it was completed. -/
  completedLessons : Table Instant
  /-- The completed courses in the order in which they were completed. -/
  completedCourses : List Scenario
  stars : UInt32
  deriving DecidableEq

/-- What the completion of a lesson has earned. -/
structure Grant where
  xpGained : UInt32
  totalXp : UInt32
  level : UInt32
  levelUp : Bool
  courseCompleted : Bool
  stars : UInt32
  deriving DecidableEq, Repr

inductive Reward where
  | alreadyCompleted
  | granted (grant : Grant)
  deriving DecidableEq, Repr

/-- How far a learner has come in a course. -/
structure CourseProgress where
  completed : Nat
  total : Nat
  percentage : Nat
  deriving DecidableEq, Repr

/-- The key of a lesson in a record. -/
def lessonKey (scenario : Scenario) (lesson : String) : String :=
  scenario.name ++ "_" ++ lesson

/-- The level reached with an amount of experience. -/
def levelOf (xp : UInt32) : UInt32 :=
  xp / 100 + 1

namespace Record

/-- The record of a learner who has done nothing yet. -/
def initial : Record := ⟨0, 1, ∅, [], 0⟩

/-- Whether a lesson of a course is completed. -/
def hasCompleted (record : Record) (course : Course) (lesson : CourseLesson) : Bool :=
  record.completedLessons.contains (lessonKey course.scenario lesson.id)

/-- Whether all lessons of a course are completed. -/
def hasFinished (record : Record) (course : Course) : Bool :=
  course.lessons.all (record.hasCompleted course)

/-- The record with a lesson that was not completed before. Nothing comes out if the experience
leaves its range. -/
def addLesson? (record : Record) (course : Course) (lesson : CourseLesson) (time : Instant) :
    Option Record := do
  let totalXp ← Counter.sum? record.totalXp lesson.xp
  return { record with
    totalXp
    level := levelOf totalXp
    completedLessons := record.completedLessons.insert (lessonKey course.scenario lesson.id) time }

/-- The record with a star for a finished course that has none yet. Nothing comes out if the stars
leave their range. -/
def addCourse? (record : Record) (course : Course) : Option Record :=
  if record.hasFinished course && !record.completedCourses.contains course.scenario then do
    return { record with
      completedCourses := record.completedCourses ++ [course.scenario]
      stars := ← Counter.sum? record.stars 1 }
  else some record

/-- The record after the completion of a lesson that was not completed before, and what it earned. -/
def complete? (record : Record) (course : Course) (lesson : CourseLesson) (time : Instant) :
    Option (Record × Grant) := do
  let next ← (← record.addLesson? course lesson time).addCourse? course
  return (next, {
    xpGained := lesson.xp
    totalXp := next.totalXp
    level := next.level
    levelUp := record.level < next.level
    courseCompleted := next.hasFinished course
    stars := next.stars })

/-- How far a learner has come in the course on a scenario, if there is one. -/
def courseProgress? (record : Record) (scenario : Scenario) : Option CourseProgress := do
  let course ← course? scenario
  let completed := course.lessons.countP (record.hasCompleted course)
  let total := course.lessons.length
  return ⟨completed, total, completed * 100 / total⟩

end Record

instance : Coded Record where
  encode record := .obj [
    ("total_xp", encode record.totalXp),
    ("level", encode record.level),
    ("completed_lessons", encode record.completedLessons),
    ("completed_courses", encode record.completedCourses),
    ("stars", encode record.stars)]
  decode? value := do
    let [totalXp, level, completedLessons, completedCourses, stars] ← value.fields?
      ["total_xp", "level", "completed_lessons", "completed_courses", "stars"] | none
    return ⟨← field? totalXp, ← field? level, ← field? completedLessons,
      ← field? completedCourses, ← field? stars⟩

end Microworlds.Progress

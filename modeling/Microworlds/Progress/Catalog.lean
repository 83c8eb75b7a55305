import Microworlds.Scenario

/-!
# Courses

The courses a learner can complete, each on one scenario, and the experience that each of their
lessons is worth.
-/

namespace Microworlds.Progress

structure CourseLesson where
  id : String
  name : String
  /-- The experience that its completion is worth. -/
  xp : UInt32
  deriving DecidableEq, Repr

structure Course where
  scenario : Scenario
  name : String
  lessons : List CourseLesson
  deriving DecidableEq, Repr

/-- All courses, in the order in which they are offered. -/
def courses : List Course := [
  ⟨.programming, "Programming basics", [
    ⟨"basic_output", "Basic output", 10⟩,
    ⟨"variables", "Variables", 15⟩,
    ⟨"conditions", "Conditions", 20⟩,
    ⟨"loops", "Loops", 25⟩]⟩,
  ⟨.algorithm, "Algorithms", [
    ⟨"array_basics", "Array basics", 15⟩,
    ⟨"sorting", "Sorting", 25⟩,
    ⟨"searching", "Searching", 20⟩,
    ⟨"complexity", "Complexity", 30⟩]⟩,
  ⟨.dataStructure, "Data structures", [
    ⟨"stack_ops", "Stack operations", 20⟩,
    ⟨"queue_ops", "Queue operations", 20⟩,
    ⟨"tree_basics", "Trees", 30⟩,
    ⟨"graph_intro", "Graphs", 35⟩]⟩,
  ⟨.math, "Math", [
    ⟨"functions", "Functions", 15⟩,
    ⟨"geometry", "Geometry", 20⟩,
    ⟨"calculations", "Calculations", 25⟩,
    ⟨"modeling", "Modeling", 30⟩]⟩,
  ⟨.physics, "Physics", [
    ⟨"gravity", "Gravity", 25⟩,
    ⟨"forces", "Forces", 30⟩,
    ⟨"collisions", "Collisions", 35⟩,
    ⟨"particles", "Particles", 40⟩]⟩,
  ⟨.game, "Game development", [
    ⟨"player_control", "Player control", 20⟩,
    ⟨"scoring", "Scoring", 25⟩,
    ⟨"entities", "Entities", 30⟩,
    ⟨"game_loop", "Game loop", 35⟩]⟩]

/-- The course on a scenario, if there is one. -/
def course? (scenario : Scenario) : Option Course :=
  courses.find? (·.scenario == scenario)

/-- The lesson of a course with an identifier. -/
def Course.lesson? (course : Course) (id : String) : Option CourseLesson :=
  course.lessons.find? (·.id == id)

/-- The lesson that is completed by arranging the blocks of a scenario. -/
def currentLesson : Scenario → String
  | .algorithm => "array_basics"
  | .dataStructure => "stack_ops"
  | .math => "functions"
  | .physics => "gravity"
  | .game => "player_control"
  | .programming | .hash | .strategy | .aiChat | .colony => "basic_output"

end Microworlds.Progress

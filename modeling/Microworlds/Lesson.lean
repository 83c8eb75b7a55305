import Microworlds.Session

/-!
# Lessons

Every scenario has one lesson: a short program cut into blocks, one statement each, which the learner
puts in order. Nothing is carried out before the order is right.
-/

namespace Microworlds

structure Block where
  code : String
  /-- What the block is for, as the learner reads it. -/
  label : String
  deriving DecidableEq, Repr

/-- A program in blocks, in their right order. -/
structure Lesson where
  scenario : Scenario
  title : String
  blocks : List Block
  deriving DecidableEq, Repr

/-- The blocks are not in their right order, which the labels tell. -/
structure OrderMismatch where
  labels : List String
  deriving DecidableEq, Repr

def OrderMismatch.message (mismatch : OrderMismatch) : String :=
  "blocks are out of order, expected: " ++ " → ".intercalate mismatch.labels

namespace Lesson

/-- The title of the lesson of a scenario. -/
def titleOf : Scenario → String
  | .programming => "First program"
  | .algorithm => "Sorting an array"
  | .dataStructure => "Stack basics"
  | .math => "Plotting functions"
  | .physics => "Gravity and forces"
  | .game => "Collect the coin"
  | .hash => "Character-sum hashing"
  | .strategy => "Expansion strategy"
  | .aiChat => "Better prompts"
  | .colony => "Founding a colony"

/-- The blocks of the lesson of a scenario. -/
def blocksOf : Scenario → List Block
  | .programming => [
    ⟨"print(\"program start\")", "print a greeting"⟩,
    ⟨"x = 10", "set x to 10"⟩,
    ⟨"if x > 5:", "check x"⟩,
    ⟨"print(\"x is greater than 5\")", "report the result"⟩]
  | .algorithm => [
    ⟨"array nums = [3, 1, 4, 2]", "declare an array"⟩,
    ⟨"print(\"before: \" + nums)", "show it unsorted"⟩,
    ⟨"sort nums", "sort it"⟩,
    ⟨"print(\"after: \" + nums)", "show it sorted"⟩]
  | .dataStructure => [
    ⟨"stack.push(1)", "push 1"⟩,
    ⟨"stack.push(2)", "push 2"⟩,
    ⟨"stack.pop()", "pop"⟩,
    ⟨"print(\"top: \" + stack.top())", "peek at the top"⟩]
  | .math => [
    ⟨"set range -5 to 5", "set the axis range"⟩,
    ⟨"plot y = x^2", "plot a parabola"⟩,
    ⟨"draw circle at (0, 0) radius 2", "draw a circle"⟩,
    ⟨"calculate 2^2 + 1", "calculate"⟩]
  | .physics => [
    ⟨"set gravity 9.8", "set gravity"⟩,
    ⟨"create ball at (50, 10)", "create a ball"⟩,
    ⟨"apply force 5 to ball", "push the ball"⟩,
    ⟨"start simulation", "start the simulation"⟩]
  | .game => [
    ⟨"create player at (0, 0)", "create the player"⟩,
    ⟨"move player right", "step right"⟩,
    ⟨"move player right", "step right again"⟩,
    ⟨"move player down", "step down onto the coin"⟩]
  | .hash => [
    ⟨"function hash(key)", "define the hash function"⟩,
    ⟨"sum = 0", "start the sum"⟩,
    ⟨"for char in key", "loop over the characters"⟩,
    ⟨"sum += ascii(char)", "add each character code"⟩,
    ⟨"return sum % 8", "take the bucket"⟩]
  | .strategy => [
    ⟨"define strategy \"expansion\"", "name the strategy"⟩,
    ⟨"set goal \"control territory\"", "set the goal"⟩,
    ⟨"build farm at (2, 3)", "build a farm"⟩,
    ⟨"train soldier at (1, 1)", "train a soldier"⟩,
    ⟨"execute strategy", "run a turn"⟩]
  | .aiChat => [
    ⟨"set thinking mode \"brainstorm\"", "pick a thinking mode"⟩,
    ⟨"ask \"how do I learn programming\"", "ask a vague question"⟩,
    ⟨"refine prompt with context", "refine the prompt"⟩,
    ⟨"ask \"As a beginner I want to learn Python step by step. " ++
      "Which 3 practice projects should I create first?\"", "ask a precise question"⟩,
    ⟨"analyze response quality", "compare the answers"⟩]
  | .colony => [
    ⟨"wood += 50", "gather wood"⟩,
    ⟨"build house at (4, 4)", "build a house"⟩,
    ⟨"move colonist to (5, 4)", "walk over to it"⟩,
    ⟨"revive colonist", "revive the fallen colonist"⟩,
    ⟨"stone -= 100", "spend every stone"⟩]

def ofScenario (scenario : Scenario) : Lesson :=
  ⟨scenario, titleOf scenario, blocksOf scenario⟩

/-- The lesson of an identifier given by a host. -/
def named (id : String) : Lesson :=
  ofScenario (.resolve id)

/-- The program of a lesson, a block on each line. -/
def code (lesson : Lesson) : String :=
  "\n".intercalate (lesson.blocks.map (·.code))

/-- The program of a lesson, if an arrangement of its blocks, given by their positions, is right. -/
def arrange (lesson : Lesson) (order : List Nat) : Except OrderMismatch String :=
  if order = List.range lesson.blocks.length then .ok lesson.code
  else .error ⟨lesson.blocks.map (·.label)⟩

end Lesson

/-- Carries out the lesson of the session's scenario, if its blocks are in the right order. -/
def Session.runLesson (session : Session) (order : List Nat) :
    Except OrderMismatch (Option (List LineResult × Session)) :=
  ((Lesson.ofScenario session.scenario).arrange order).map session.run

end Microworlds

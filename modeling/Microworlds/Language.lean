import Microworlds.State
import Microworlds.Programming.Rules
import Microworlds.Algorithm.Rules
import Microworlds.DataStructure.Rules
import Microworlds.Math.Rules
import Microworlds.Physics.Rules
import Microworlds.Game.Rules
import Microworlds.Hash.Rules
import Microworlds.Strategy.Rules
import Microworlds.AiChat.Rules
import Microworlds.Colony.Rules

/-!
# The language of each scenario

The table of rules of every scenario, and the classification of a line: the first rule whose shape
the line has decides what it says, or that it says nothing because one of its slots holds no value.
-/

namespace Microworlds

/-- The rules of a scenario, in the order in which they are tried. -/
def rulesOf : Scenario → List (Rule Command)
  | .programming => Programming.rules.map (.map .programming)
  | .algorithm => Algorithm.rules.map (.map .algorithm)
  | .dataStructure => DataStructure.rules.map (.map .dataStructure)
  | .math => Math.rules.map (.map .math)
  | .physics => Physics.rules.map (.map .physics)
  | .game => Game.rules.map (.map .game)
  | .hash => Hash.rules.map (.map .hash)
  | .strategy => Strategy.rules.map (.map .strategy)
  | .aiChat => AiChat.rules.map (.map .aiChat)
  | .colony => Colony.rules.map (.map .colony)

structure Statement where
  command : Command
  /-- The name of the rule. -/
  rule : String
  family : String
  /-- The trimmed line. -/
  source : String

/-- Classifies a line by a table of rules. White space at its ends does not count. -/
def classify (rules : List (Rule Command)) (line : String) : Except ClassifyError Statement :=
  let said := Text.trim line.toList
  let source := String.ofList said
  match Rule.first? rules said with
  | none => .error (.unrecognized source)
  | some (_, .error cause) => .error (.badArgument source cause)
  | some (rule, .ok command) => .ok ⟨command, rule.name, rule.family, source⟩

end Microworlds

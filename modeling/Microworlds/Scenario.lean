import Microworlds.Text.Class
import Microworlds.Json.Coded

/-!
# Scenarios

The ten scenarios a learner can work in, and their names. A session belongs to one of them.
-/

namespace Microworlds

/-- A scenario: it settles which statements are understood and what they act on. -/
inductive Scenario where
  | programming
  | algorithm
  | dataStructure
  | math
  | physics
  | game
  | hash
  | strategy
  | aiChat
  | colony
  deriving DecidableEq, Repr, Inhabited

namespace Scenario

/-- Every scenario once. -/
def all : List Scenario :=
  [programming, algorithm, dataStructure, math, physics, game, hash, strategy, aiChat, colony]

def name : Scenario → String
  | programming => "programming"
  | algorithm => "algorithm"
  | dataStructure => "datastructure"
  | math => "math"
  | physics => "physics"
  | game => "game"
  | hash => "hash"
  | strategy => "strategy"
  | aiChat => "aichat"
  | colony => "colony"

/-- The scenario with exactly this name. -/
def named? (word : String) : Option Scenario :=
  all.find? (·.name == word)

/-- The scenario an identifier stands for. White space around it and the case of the letters `A` to
`Z` do not matter, and `cs` is a second name of the hash walkthrough. -/
def ofId? (id : String) : Option Scenario :=
  let word := String.ofList ((Text.trim id.toList).map Char.toLower)
  if word = "cs" then some hash else named? word

/-- The scenario of an identifier given by a host. An unknown one stands for programming. -/
def resolve (id : String) : Scenario :=
  (ofId? id).getD programming

/-- What is said about an identifier that stands for no scenario. -/
def unknownMessage (id : String) : String :=
  "unknown scenario: " ++ id

end Scenario

instance : Coded Scenario where
  encode s := .str s.name
  decode? value := value.word?.bind Scenario.named?

end Microworlds

/-!
# Closed vocabularies

The small sets of words that statements choose from, each with its spelling.
-/

namespace Microworlds

/-- Whether an amount is added or taken away. -/
inductive Sign where
  | plus
  | minus
  deriving DecidableEq, Repr

def Sign.symbol : Sign → String
  | plus => "+"
  | minus => "-"

inductive Comparison where
  | greater
  | less
  | atLeast
  | atMost
  | equal
  | different
  deriving DecidableEq, Repr

namespace Comparison

def symbol : Comparison → String
  | greater => ">"
  | less => "<"
  | atLeast => ">="
  | atMost => "<="
  | equal => "=="
  | different => "!="

def holds (c : Comparison) (left right : Int64) : Bool :=
  match c with
  | greater => right < left
  | less => left < right
  | atLeast => right ≤ left
  | atMost => left ≤ right
  | equal => left == right
  | different => left != right

end Comparison

inductive SortMethod where
  | bubble
  | selection
  deriving DecidableEq, Repr

def SortMethod.name : SortMethod → String
  | bubble => "bubble"
  | selection => "selection"

/-- A direction on a grid whose rows are counted downward. -/
inductive Direction where
  | up
  | down
  | left
  | right
  deriving DecidableEq, Repr

namespace Direction

def name : Direction → String
  | up => "up"
  | down => "down"
  | left => "left"
  | right => "right"

def columns : Direction → Int64
  | left => -1
  | right => 1
  | _ => 0

def rows : Direction → Int64
  | up => -1
  | down => 1
  | _ => 0

end Direction

end Microworlds

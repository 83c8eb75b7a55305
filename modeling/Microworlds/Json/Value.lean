import Microworlds.Table

/-!
# JSON values

A JSON value keeps whole numbers and floating-point numbers apart, and an object keeps its members
in the order in which they stand, repeated keys included. `sorted` is the canonical arrangement: each
key once, in ascending order, with the value that stands last.

A text can have parts in the form of values that stand for none. They are `flawed`, and matter only to
those who look at them; a value without any is `sound`.
-/

namespace Microworlds

inductive Json where
  | null
  | bool (b : Bool)
  | int (n : Int)
  | float (x : Float)
  | str (s : String)
  | arr (items : List Json)
  | obj (members : List (String × Json))
  /-- A part of a text in the form of a value that stands for none: a number out of range, a string
  with half of a surrogate pair, an object with such a key, or what is nested too deeply. -/
  | flawed
  deriving Inhabited

namespace Json

mutual

/-- The same value with the members of every object in ascending order of their keys. -/
def sorted : Json → Json
  | arr items => arr (sortedItems items)
  | obj members => obj (Table.ofList (sortedMembers members)).entries
  | plain => plain

/-- The items of an array, each in its canonical arrangement. -/
def sortedItems : List Json → List Json
  | [] => []
  | item :: more => sorted item :: sortedItems more

/-- The members of an object, each in its canonical arrangement, in the order in which they stand. -/
def sortedMembers : List (String × Json) → List (String × Json)
  | [] => []
  | (key, value) :: more => (key, sorted value) :: sortedMembers more

end

mutual

/-- Whether no part of the value is flawed. -/
def sound : Json → Bool
  | flawed => false
  | arr items => soundItems items
  | obj members => soundMembers members
  | _ => true

/-- Whether no part of the items is flawed. -/
def soundItems : List Json → Bool
  | [] => true
  | item :: more => sound item && soundItems more

/-- Whether no part of the members is flawed. -/
def soundMembers : List (String × Json) → Bool
  | [] => true
  | (_, value) :: more => sound value && soundMembers more

end

mutual

/-- How many arrays and objects stand inside each other. -/
def levels : Json → Nat
  | arr items => itemsLevels items + 1
  | obj members => membersLevels members + 1
  | _ => 0

/-- The levels among the items of an array. -/
def itemsLevels : List Json → Nat
  | [] => 0
  | item :: more => max (levels item) (itemsLevels more)

/-- The levels among the members of an object. -/
def membersLevels : List (String × Json) → Nat
  | [] => 0
  | (_, value) :: more => max (levels value) (membersLevels more)

end

/-- The value if no part of it is flawed. -/
def whole? (value : Json) : Option Json :=
  if value.sound then some value else none

/-- The value of a key that stands last. -/
def member? (members : List (String × Json)) (key : String) : Option Json :=
  (members.reverse.find? (·.1 == key)).map (·.2)

/-- How often a key stands among the members. -/
def occurrences (members : List (String × Json)) (key : String) : Nat :=
  members.countP (·.1 == key)

end Json

end Microworlds

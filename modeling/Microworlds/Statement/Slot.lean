import Microworlds.Literal
import Microworlds.Statement.Vocabulary

/-!
# Slots

A slot is a place in a statement where something of the learner's own stands: a number, a name, a
quoted text, a word out of a few. `Slot.take?` cuts the longest text that fits the slot off the front
of a line, and `Slot.read` gives its value. Digits of every script fit a number, but only `0` to `9`
have a value.
-/

namespace Microworlds

open Text

/-- A kind of text that stands for a value. -/
inductive Slot where
  /-- A whole number, perhaps with a minus. -/
  | integer
  /-- A number, perhaps with a minus and with a fraction. -/
  | number
  /-- Digits. -/
  | amount
  /-- Digits that count frames of a simulation. -/
  | frames
  /-- A name: letters, digits and underscores, no digit first. -/
  | name
  /-- A text in quotes. -/
  | quoted
  /-- A text in quotes, or a word without white space, quotes, brackets and commas. -/
  | value
  /-- Anything without white space. -/
  | token
  /-- Everything up to the end of the line. -/
  | formula
  /-- Everything up to a closing square bracket. -/
  | integers
  | sign
  | comparison
  | sortMethod
  | direction
  | resource
  | switch
  deriving DecidableEq, Repr

namespace Slot

@[reducible] def Value : Slot → Type
  | integer => Int64
  | number => Float
  | amount => UInt64
  | frames => UInt32
  | name | quoted | value | token | formula | resource => String
  | integers => List Int64
  | sign => Sign
  | comparison => Comparison
  | sortMethod => SortMethod
  | direction => Direction
  | switch => Bool

/-- The front of a text as long as the characters fit, if there is any, and the rest. -/
def takeSome? (fits : Char → Bool) (cs : List Char) : Option (List Char × List Char) :=
  match cs.span fits with
  | ([], _) => none
  | found => some found

/-- Digits after a minus or without one. -/
def takeInteger? : List Char → Option (List Char × List Char)
  | '-' :: rest => (takeSome? isDigit rest).map fun (digits, rest) => ('-' :: digits, rest)
  | cs => takeSome? isDigit cs

/-- A whole number, and a point with digits behind it if there is one. -/
def takeNumber? (cs : List Char) : Option (List Char × List Char) := do
  let (whole, rest) ← takeInteger? cs
  match rest with
  | '.' :: behind =>
    match takeSome? isDigit behind with
    | some (fraction, rest) => return (whole ++ '.' :: fraction, rest)
    | none => return (whole, rest)
  | _ => return (whole, rest)

def takeName? : List Char → Option (List Char × List Char)
  | [] => none
  | c :: rest =>
    if startsName c then
      let (more, rest) := rest.span continuesName
      some (c :: more, rest)
    else none

/-- The rest of a quoted text up to its quote. A backslash goes with the character behind it, which
may be any but a line feed. -/
def takeQuotedRest? (quote : Char) : List Char → Option (List Char × List Char)
  | [] => none
  | c :: rest =>
    if c = quote then some ([c], rest)
    else if c = '\\' then
      match rest with
      | [] => none
      | d :: rest =>
        if d = '\n' then none
        else (takeQuotedRest? quote rest).map fun (text, rest) => (c :: d :: text, rest)
    else (takeQuotedRest? quote rest).map fun (text, rest) => (c :: text, rest)

def takeQuoted? : List Char → Option (List Char × List Char)
  | [] => none
  | c :: rest =>
    if c = '"' ∨ c = '\'' then (takeQuotedRest? c rest).map fun (text, rest) => (c :: text, rest)
    else none

/-- Whether a character may stand in a bare word. -/
def isBare (c : Char) : Bool :=
  !(isBlank c || c == '(' || c == ')' || c == '"' || c == '\'' || c == ',')

/-- The rest of a text without the given front. -/
def dropFront? : List Char → List Char → Option (List Char)
  | [], cs => some cs
  | _ :: _, [] => none
  | f :: front, c :: cs => if f = c then dropFront? front cs else none

/-- The first of some words that the text begins with. -/
def takeWord? : List String → List Char → Option (List Char × List Char)
  | [], _ => none
  | word :: more, cs =>
    match dropFront? word.toList cs with
    | some rest => some (word.toList, rest)
    | none => takeWord? more cs

/-- The words of a slot that has only a few, with their meanings. A word stands before its fronts. -/
def meanings : (s : Slot) → List (String × s.Value)
  | sign => [("+", .plus), ("-", .minus)]
  | comparison =>
    [(">=", .atLeast), ("<=", .atMost), ("==", .equal), ("!=", .different), (">", .greater),
     ("<", .less)]
  | sortMethod => [("bubble", .bubble), ("selection", .selection)]
  | direction => [("up", .up), ("down", .down), ("left", .left), ("right", .right)]
  | resource => [("wood", "wood"), ("stone", "stone"), ("food", "food"), ("metal", "metal")]
  | switch => [("on", true), ("off", false)]
  | _ => []

/-- The text that fills a slot at the front of a line, and the rest of the line. -/
def take? (s : Slot) (cs : List Char) : Option (List Char × List Char) :=
  match s with
  | integer => takeInteger? cs
  | number => takeNumber? cs
  | amount | frames => takeSome? isDigit cs
  | name => takeName? cs
  | quoted => takeQuoted? cs
  | value =>
    match cs with
    | '"' :: _ => takeQuoted? cs
    | '\'' :: _ => takeQuoted? cs
    | _ => takeSome? isBare cs
  | token => takeSome? (fun c => !isBlank c) cs
  | formula => if cs.isEmpty || cs.contains '\n' then none else some (cs, [])
  | integers => some (cs.span (· != ']'))
  | sign | comparison | sortMethod | direction | resource | switch =>
    takeWord? (s.meanings.map (·.1)) cs

/-- The greatest number of frames one statement may ask for. -/
def maxFrames : UInt64 := 10000

def readFrames (raw : String) : Except LiteralError UInt32 := do
  let n ← Literal.amount raw
  if 1 ≤ n ∧ n ≤ maxFrames then .ok n.toUInt32 else .error (.outOfRange raw)

/-- The meaning of a word out of a few. -/
def readWord (s : Slot) (text : String) : Except LiteralError s.Value :=
  match s.meanings.find? (·.1 == text) with
  | some (_, meaning) => .ok meaning
  | none => .error (.missing text)

/-- The value of the text in a slot. -/
def read (s : Slot) (text : String) : Except LiteralError s.Value :=
  match s with
  | integer => Literal.integer text
  | number => Literal.decimal text
  | amount => Literal.amount text
  | frames => readFrames text
  | name | token => .ok text
  | formula => .ok (trimmed text)
  | quoted => Literal.quoted text
  | value => Literal.value text
  | integers => Literal.integers text
  | sign => readWord .sign text
  | comparison => readWord .comparison text
  | sortMethod => readWord .sortMethod text
  | direction => readWord .direction text
  | resource => readWord .resource text
  | switch => readWord .switch text

end Slot

end Microworlds

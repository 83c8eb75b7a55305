import Microworlds.Statement.Slot

/-!
# Forms of statements

A form is a sequence of pieces: fixed texts, white space and slots. `Pieces.match?` reads a whole line
as such a sequence, from left to right and each piece as long as it can be. A rule gives several
forms one meaning, and `Rule.first?` finds the rule of a table that a line belongs to.
-/

namespace Microworlds

open Text

inductive Piece where
  /-- Exactly this text. -/
  | text (text : String)
  /-- White space, or nothing. -/
  | gap
  /-- White space, at least one character. -/
  | space
  /-- A place for a value. -/
  | slot (slot : Slot)
  deriving DecidableEq, Repr

namespace Pieces

/-- The values in the slots of a sequence of pieces. -/
@[reducible] def Values : List Piece → Type
  | [] => Unit
  | .slot s :: more => s.Value × Values more
  | .text _ :: more => Values more
  | .gap :: more => Values more
  | .space :: more => Values more

/-- Reads a line as the given pieces. Nothing comes out if the line has another shape; if it has this
shape, then the values of the slots, or the error in the first slot whose text has no value. -/
def match? : (pieces : List Piece) → List Char → Option (Except LiteralError (Values pieces))
  | [], cs => if cs.isEmpty then some (.ok ()) else none
  | .text text :: more, cs => (Slot.dropFront? text.toList cs).bind (match? more)
  | .gap :: more, cs => match? more (trimStart cs)
  | .space :: more, cs =>
    match cs with
    | [] => none
    | c :: rest => if isBlank c then match? more (trimStart rest) else none
  | .slot s :: more, cs =>
    match s.take? cs with
    | none => none
    | some (text, rest) =>
      (match? more rest).map fun values =>
        match s.read (String.ofList text), values with
        | .ok value, .ok values => .ok (value, values)
        | .ok _, .error e => .error e
        | .error e, _ => .error e

end Pieces

/-- A way to write a statement, and what it means. -/
structure Form (κ : Type) where
  pieces : List Piece
  meaning : Pieces.Values pieces → κ

def Form.match? {κ : Type} (form : Form κ) (line : List Char) : Option (Except LiteralError κ) :=
  (Pieces.match? form.pieces line).map (·.map form.meaning)

/-- A kind of statement with all its forms. -/
structure Rule (κ : Type) where
  /-- Unique in its table. -/
  name : String
  /-- The feature the rule belongs to, with the name of its scenario. -/
  family : String
  /-- A line of this kind. -/
  sample : String
  forms : List (Form κ)

namespace Rule

variable {κ : Type}

/-- Reads a line as the first form of the rule that it has the shape of. -/
def match? (rule : Rule κ) (line : List Char) : Option (Except LiteralError κ) :=
  rule.forms.findSome? (·.match? line)

/-- The first rule of a table that a line has the shape of, and what the line says. -/
def first? (rules : List (Rule κ)) (line : List Char) :
    Option (Rule κ × Except LiteralError κ) :=
  rules.findSome? fun rule => (rule.match? line).map (rule, ·)

def map {μ : Type} (f : κ → μ) (rule : Rule κ) : Rule μ where
  name := rule.name
  family := rule.family
  sample := rule.sample
  forms := rule.forms.map fun form => ⟨form.pieces, fun values => f (form.meaning values)⟩

end Rule

/-- A cell in brackets, two whole numbers with a comma, and the pieces behind it. -/
@[reducible] def cellThen (more : List Piece) : List Piece :=
  .text "(" :: .gap :: .slot .integer :: .gap :: .text "," :: .gap :: .slot .integer :: .gap ::
    .text ")" :: more

/-- A place in brackets, two numbers with a comma, and the pieces behind it. -/
@[reducible] def placeThen (more : List Piece) : List Piece :=
  .text "(" :: .gap :: .slot .number :: .gap :: .text "," :: .gap :: .slot .number :: .gap ::
    .text ")" :: more

end Microworlds

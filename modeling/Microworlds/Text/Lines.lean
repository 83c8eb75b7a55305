import Microworlds.Text.Class

/-!
# Lines and statements

A program text is cut at its line feeds. A carriage return before a line feed is white space at the
end of a line, so it needs no rule of its own. `statements` keeps the lines that say something, with
their numbers.
-/

namespace Microworlds.Text

/-- The pieces of a text between the marks: always one more than there are marks. -/
def pieces (mark : Char) : List Char → List (List Char)
  | [] => [[]]
  | c :: rest =>
    if c = mark then [] :: pieces mark rest
    else match pieces mark rest with
      | piece :: more => (c :: piece) :: more
      | [] => [[c]]

/-- A comment starts with `#` or with `//`. -/
def isComment : List Char → Bool
  | '#' :: _ => true
  | '/' :: '/' :: _ => true
  | _ => false

/-- The trimmed line, unless it is blank or a comment. -/
def statement? (line : List Char) : Option String :=
  let said := trim line
  if said.isEmpty || isComment said then none else some (String.ofList said)

/-- The statements among the given lines, the first of which has the given number. -/
def numbered : Nat → List (List Char) → List (Nat × String)
  | _, [] => []
  | number, line :: more =>
    match statement? line with
    | some said => (number, said) :: numbered (number + 1) more
    | none => numbered (number + 1) more

/-- The statements of a program text, each with the number of its line, counted from 1. -/
def statements (text : String) : List (Nat × String) :=
  numbered 1 (pieces '\n' text.toList)

end Microworlds.Text

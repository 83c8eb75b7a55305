import Microworlds.Programming.Basic
import Microworlds.Statement.Form

/-!
# Statements of programs
-/

namespace Microworlds.Programming

/-- The kinds of statements, in the order in which they are tried. -/
def rules : List (Rule Command) := [
  { name := "print.concat"
    family := "programming.print"
    sample := "print(\"x is \" + x)"
    forms := [⟨[.text "print(", .gap, .slot .quoted, .gap, .text "+", .gap, .slot .name, .gap,
      .text ")"], fun (text, var, _) => .printConcat text var⟩] },
  { name := "print.literal"
    family := "programming.print"
    sample := "print(\"hello\")"
    forms := [⟨[.text "print(", .gap, .slot .quoted, .gap, .text ")"],
      fun (text, _) => .print text⟩] },
  { name := "print.variable"
    family := "programming.print"
    sample := "print(x)"
    forms := [⟨[.text "print(", .gap, .slot .name, .gap, .text ")"],
      fun (var, _) => .printVar var⟩] },
  { name := "augment"
    family := "programming.augment"
    sample := "x += 5"
    forms := [⟨[.slot .name, .gap, .slot .sign, .text "=", .gap, .slot .integer],
      fun (name, sign, amount, _) => .augment name sign amount⟩] },
  { name := "assign.int"
    family := "programming.assign"
    sample := "x = 10"
    forms := [⟨[.slot .name, .gap, .text "=", .gap, .slot .integer],
      fun (name, value, _) => .assignInt name value⟩] },
  { name := "assign.text"
    family := "programming.assign"
    sample := "name = \"Ada\""
    forms := [⟨[.slot .name, .gap, .text "=", .gap, .slot .quoted],
      fun (name, value, _) => .assignText name value⟩] },
  { name := "if"
    family := "programming.if"
    sample := "if x > 5:"
    forms := [⟨[.text "if", .space, .slot .name, .gap, .slot .comparison, .gap, .slot .integer,
      .gap, .text ":"], fun (name, comparison, bound, _) => .condition name comparison bound⟩] }]

end Microworlds.Programming

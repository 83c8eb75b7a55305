import Microworlds.Algorithm.Basic
import Microworlds.Statement.Form

/-!
# Statements about arrays
-/

namespace Microworlds.Algorithm

/-- The kinds of statements, in the order in which they are tried. -/
def rules : List (Rule Command) := [
  { name := "array.declare"
    family := "algorithm.array"
    sample := "array nums = [3, 1, 4, 2]"
    forms := [⟨[.text "array", .space, .slot .name, .gap, .text "=", .gap, .text "[",
      .slot .integers, .text "]"], fun (name, values, _) => .declare name values⟩] },
  { name := "array.sort"
    family := "algorithm.sort"
    sample := "sort nums using selection"
    forms := [
      ⟨[.text "sort", .space, .slot .name], fun (name, _) => .sort name .bubble⟩,
      ⟨[.text "sort", .space, .slot .name, .space, .text "using", .space, .slot .sortMethod],
        fun (name, method, _) => .sort name method⟩] },
  { name := "array.search"
    family := "algorithm.search"
    sample := "search nums for 4"
    forms := [⟨[.text "search", .space, .slot .name, .space, .text "for", .space, .slot .integer],
      fun (name, target, _) => .search name target⟩] },
  { name := "array.print"
    family := "algorithm.print"
    sample := "print(\"sorted: \" + nums)"
    forms := [⟨[.text "print(", .gap, .slot .quoted, .gap, .text "+", .gap, .slot .name, .gap,
      .text ")"], fun (text, name, _) => .print text name⟩] }]

end Microworlds.Algorithm

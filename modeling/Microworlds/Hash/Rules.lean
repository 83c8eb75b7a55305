import Microworlds.Hash.Basic
import Microworlds.Statement.Form

/-!
# Lines of the hash function
-/

namespace Microworlds.Hash

/-- The kinds of statements, in the order in which they are tried. -/
def rules : List (Rule Command) := [
  { name := "define"
    family := "hash.function"
    sample := "function hash(key)"
    forms := [⟨[.text "function", .space, .text "hash", .gap, .text "(", .gap, .slot .name, .gap,
      .text ")"], fun (param, _) => .define param⟩] },
  { name := "sum.init"
    family := "hash.sum"
    sample := "sum = 0"
    forms := [⟨[.text "sum", .gap, .text "=", .gap, .text "0"], fun _ => .initSum⟩] },
  { name := "input"
    family := "hash.input"
    sample := "key = \"apple\""
    forms := [⟨[.slot .name, .gap, .text "=", .gap, .slot .quoted],
      fun (name, value, _) => .setInput name value⟩] },
  { name := "loop"
    family := "hash.loop"
    sample := "for char in key"
    forms := [⟨[.text "for", .space, .slot .name, .space, .text "in", .space, .slot .name],
      fun (var, source, _) => .loop var source⟩] },
  { name := "accumulate"
    family := "hash.sum"
    sample := "sum += ascii(char)"
    forms := [⟨[.text "sum", .gap, .text "+=", .gap, .text "ascii(", .gap, .slot .name, .gap,
      .text ")"], fun (var, _) => .accumulate var⟩] },
  { name := "return"
    family := "hash.return"
    sample := "return sum % 8"
    forms := [⟨[.text "return", .space, .text "sum", .gap, .text "%", .gap, .slot .integer],
      fun (modulus, _) => .return modulus⟩] },
  { name := "hash.call"
    family := "hash.function"
    sample := "hash(\"apple\")"
    forms := [⟨[.text "hash(", .gap, .slot .quoted, .gap, .text ")"],
      fun (text, _) => .hashOf text⟩] }]

end Microworlds.Hash

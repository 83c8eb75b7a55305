import Microworlds.Strategy.Basic
import Microworlds.Statement.Form

/-!
# Statements of the strategy game
-/

namespace Microworlds.Strategy

/-- The kinds of statements, in the order in which they are tried. -/
def rules : List (Rule Command) := [
  { name := "define"
    family := "strategy.plan"
    sample := "define strategy \"expansion\""
    forms := [⟨[.text "define", .space, .text "strategy", .space, .slot .quoted],
      fun (name, _) => .define name⟩] },
  { name := "goal"
    family := "strategy.plan"
    sample := "set goal \"control territory\""
    forms := [⟨[.text "set", .space, .text "goal", .space, .slot .quoted],
      fun (goal, _) => .setGoal goal⟩] },
  { name := "build"
    family := "strategy.build"
    sample := "build farm at (2, 3)"
    forms := [⟨.text "build" :: .space :: .slot .name :: .space :: .text "at" :: .gap ::
      cellThen [], fun (kind, x, y, _) => .build kind x y⟩] },
  { name := "train"
    family := "strategy.train"
    sample := "train soldier at (1, 1)"
    forms := [⟨.text "train" :: .space :: .slot .name :: .space :: .text "at" :: .gap ::
      cellThen [], fun (kind, x, y, _) => .train kind x y⟩] },
  { name := "collect"
    family := "strategy.collect"
    sample := "collect gold 20"
    forms := [⟨[.text "collect", .space, .slot .name, .space, .slot .amount],
      fun (resource, amount, _) => .collect resource amount⟩] },
  { name := "execute"
    family := "strategy.plan"
    sample := "execute strategy"
    forms := [⟨[.text "execute", .space, .text "strategy"], fun _ => .execute⟩] }]

end Microworlds.Strategy

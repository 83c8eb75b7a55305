import Microworlds.Game.Basic
import Microworlds.Statement.Form

/-!
# Statements of the game
-/

namespace Microworlds.Game

/-- The kinds of statements, in the order in which they are tried. -/
def rules : List (Rule Command) := [
  { name := "player.create"
    family := "game.player"
    sample := "create player at (0, 0)"
    forms := [⟨.text "create" :: .space :: .text "player" :: .space :: .text "at" :: .gap ::
      cellThen [], fun (x, y, _) => .createPlayer x y⟩] },
  { name := "player.move"
    family := "game.player"
    sample := "move player right"
    forms := [⟨[.text "move", .space, .text "player", .space, .slot .direction],
      fun (direction, _) => .move direction⟩] },
  { name := "coin.spawn"
    family := "game.coin"
    sample := "spawn coin at (4, 4)"
    forms := [⟨.text "spawn" :: .space :: .text "coin" :: .space :: .text "at" :: .gap ::
      cellThen [], fun (x, y, _) => .spawnCoin x y⟩] }]

end Microworlds.Game

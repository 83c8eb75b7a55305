import Microworlds.Game.Basic

/-!
# States of the game in JSON
-/

namespace Microworlds.Game

instance : Coded Position where
  encode cell := .obj [("x", encode cell.x), ("y", encode cell.y)]
  decode? value := do
    let [x, y] ← value.fields? ["x", "y"] | none
    return ⟨← field? x, ← field? y⟩

instance : Coded State where
  encode state := .obj [
    ("player", encode state.player),
    ("coins", encode state.coins),
    ("score", encode state.score)]
  decode? value := do
    let [player, coins, score] ← value.fields? ["player", "coins", "score"] | none
    return ⟨← optionalField? player, ← field? coins, ← field? score⟩

end Microworlds.Game

import Microworlds.Math.Basic
import Microworlds.Statement.Form

/-!
# Statements about drawings
-/

namespace Microworlds.Math

/-- The kinds of statements, in the order in which they are tried. -/
def rules : List (Rule Command) := [
  { name := "range"
    family := "math.range"
    sample := "set range -5 to 5"
    forms := [⟨[.text "set", .space, .text "range", .space, .slot .integer, .space, .text "to",
      .space, .slot .integer], fun (min, max, _) => .setRange min max⟩] },
  { name := "plot.equation"
    family := "math.plot"
    sample := "plot y = x^2"
    forms := [⟨[.text "plot", .space, .text "y", .gap, .text "=", .gap, .slot .formula],
      fun (expression, _) => .plot expression⟩] },
  { name := "plot.expression"
    family := "math.plot"
    sample := "plot sin(x)"
    forms := [⟨[.text "plot", .space, .slot .formula], fun (expression, _) => .plot expression⟩] },
  { name := "draw.circle"
    family := "math.shape"
    sample := "draw circle at (0, 0) radius 2"
    forms := [⟨.text "draw" :: .space :: .text "circle" :: .space :: .text "at" :: .gap ::
      placeThen [.space, .text "radius", .space, .slot .number],
      fun (x, y, radius, _) => .circle x y radius⟩] },
  { name := "draw.rectangle"
    family := "math.shape"
    sample := "draw rectangle at (1, 1) width 3 height 2"
    forms := [⟨.text "draw" :: .space :: .text "rectangle" :: .space :: .text "at" :: .gap ::
      placeThen [.space, .text "width", .space, .slot .number, .space, .text "height", .space, .slot .number],
      fun (x, y, width, height, _) => .rectangle x y width height⟩] },
  { name := "point"
    family := "math.point"
    sample := "add point at (1, 2) label \"A\""
    forms := [
      ⟨.text "add" :: .space :: .text "point" :: .space :: .text "at" :: .gap :: placeThen [],
        fun (x, y, _) => .point x y none⟩,
      ⟨.text "add" :: .space :: .text "point" :: .space :: .text "at" :: .gap ::
        placeThen [.space, .text "label", .space, .slot .value],
        fun (x, y, label, _) => .point x y (some label)⟩] },
  { name := "calculate"
    family := "math.calculate"
    sample := "calculate 2^2 + 1"
    forms := [⟨[.text "calculate", .space, .slot .formula],
      fun (expression, _) => .calculate expression⟩] }]

end Microworlds.Math

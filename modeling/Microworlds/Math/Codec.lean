import Microworlds.Math.Basic

/-!
# States of drawings in JSON
-/

namespace Microworlds.Math

instance : Coded Range where
  encode range := .obj [("min", encode range.min), ("max", encode range.max)]
  decode? value := do
    let [min, max] ← value.fields? ["min", "max"] | none
    return ⟨← field? min, ← field? max⟩

instance : Coded Plot where
  encode plot := .obj [("expression", encode plot.expression), ("points", encode plot.points)]
  decode? value := do
    let [expression, points] ← value.fields? ["expression", "points"] | none
    return ⟨← field? expression, ← field? points⟩

instance : Coded Shape where
  encode
    | .circle x y radius => .obj [
        ("shape", .str "circle"), ("x", encode x), ("y", encode y), ("radius", encode radius)]
    | .rectangle x y width height => .obj [
        ("shape", .str "rectangle"), ("x", encode x), ("y", encode y), ("width", encode width),
        ("height", encode height)]
  decode? value := do
    let (shape, body) ← value.tagged? "shape"
    match ← shape.choice? ["circle", "rectangle"] with
    | "circle" =>
      let [x, y, radius] ← body.fields? ["x", "y", "radius"] | none
      return .circle (← field? x) (← field? y) (← field? radius)
    | "rectangle" =>
      let [x, y, width, height] ← body.fields? ["x", "y", "width", "height"] | none
      return .rectangle (← field? x) (← field? y) (← field? width) (← field? height)
    | _ => none

instance : Coded LabeledPoint where
  encode point :=
    .obj [("x", encode point.x), ("y", encode point.y), ("label", encode point.label)]
  decode? value := do
    let [x, y, label] ← value.fields? ["x", "y", "label"] | none
    return ⟨← field? x, ← field? y, ← optionalField? label⟩

instance : Coded State where
  encode state := .obj [
    ("range", encode state.range),
    ("plots", encode state.plots),
    ("shapes", encode state.shapes),
    ("points", encode state.points),
    ("last_result", encode state.lastResult)]
  decode? value := do
    let [range, plots, shapes, points, result] ←
      value.fields? ["range", "plots", "shapes", "points", "last_result"] | none
    return ⟨← field? range, ← field? plots, ← field? shapes, ← field? points,
      ← optionalField? result⟩

end Microworlds.Math

import Microworlds.Physics.Basic

/-!
# States of the box in JSON
-/

namespace Microworlds.Physics

instance : Coded Body where
  encode body := .obj [
    ("name", encode body.name), ("x", encode body.x), ("y", encode body.y),
    ("vx", encode body.vx), ("vy", encode body.vy), ("mass", encode body.mass),
    ("radius", encode body.radius)]
  decode? value := do
    let [name, x, y, vx, vy, mass, radius] ←
      value.fields? ["name", "x", "y", "vx", "vy", "mass", "radius"] | none
    return ⟨← field? name, ← field? x, ← field? y, ← field? vx, ← field? vy, ← field? mass,
      ← field? radius⟩

instance : Coded State where
  encode state := .obj [
    ("gravity", encode state.gravity),
    ("bodies", encode state.bodies),
    ("running", encode state.running),
    ("frame", encode state.frame)]
  decode? value := do
    let [gravity, bodies, running, frame] ←
      value.fields? ["gravity", "bodies", "running", "frame"] | none
    return ⟨← field? gravity, ← field? bodies, ← field? running, ← field? frame⟩

end Microworlds.Physics

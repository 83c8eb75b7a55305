import Microworlds.Physics.Basic
import Microworlds.Statement.Form

/-!
# Statements about the box
-/

namespace Microworlds.Physics

/-- The kinds of statements, in the order in which they are tried. A body without a mass of its own
has the mass 1, and without a number one frame is meant. -/
def rules : List (Rule Command) := [
  { name := "gravity"
    family := "physics.gravity"
    sample := "set gravity 9.8"
    forms := [⟨[.text "set", .space, .text "gravity", .space, .slot .number],
      fun (g, _) => .setGravity g⟩] },
  { name := "create"
    family := "physics.create"
    sample := "create ball at (50, 10)"
    forms := [
      ⟨.text "create" :: .space :: .slot .name :: .space :: .text "at" :: .gap :: placeThen [],
        fun (name, x, y, _) => .create name x y 1⟩,
      ⟨.text "create" :: .space :: .slot .name :: .space :: .text "at" :: .gap ::
        placeThen [.space, .text "mass", .space, .slot .number],
        fun (name, x, y, mass, _) => .create name x y mass⟩] },
  { name := "force"
    family := "physics.force"
    sample := "apply force 5 to ball"
    forms := [⟨[.text "apply", .space, .text "force", .space, .slot .number, .space, .text "to",
      .space, .slot .name], fun (magnitude, target, _) => .applyForce magnitude target⟩] },
  { name := "start"
    family := "physics.simulation"
    sample := "start simulation"
    forms := [⟨[.text "start", .space, .text "simulation"], fun _ => .start⟩] },
  { name := "stop"
    family := "physics.simulation"
    sample := "stop simulation"
    forms := [⟨[.text "stop", .space, .text "simulation"], fun _ => .stop⟩] },
  { name := "step"
    family := "physics.simulation"
    sample := "step simulation 10"
    forms := [
      ⟨[.text "step", .space, .text "simulation"], fun _ => .step 1⟩,
      ⟨[.text "step", .space, .text "simulation", .space, .slot .frames],
        fun (frames, _) => .step frames⟩] }]

end Microworlds.Physics

import Microworlds.Colony.Basic
import Microworlds.Statement.Form

/-!
# Statements of the colony
-/

namespace Microworlds.Colony

/-- The kinds of statements, in the order in which they are tried. -/
def rules : List (Rule Command) := [
  { name := "resource.set"
    family := "colony.resource"
    sample := "wood = 100"
    forms := [⟨[.slot .resource, .gap, .text "=", .gap, .slot .amount],
      fun (resource, amount, _) => .setResource resource amount⟩] },
  { name := "resource.adjust"
    family := "colony.resource"
    sample := "wood += 50"
    forms := [⟨[.slot .resource, .gap, .slot .sign, .text "=", .gap, .slot .amount],
      fun (resource, sign, amount, _) => .adjustResource resource sign amount⟩] },
  { name := "resource.expression"
    family := "colony.resource"
    sample := "food - 10"
    forms := [⟨[.slot .resource, .gap, .slot .sign, .gap, .slot .amount],
      fun (resource, sign, amount, _) => .adjustResource resource sign amount⟩] },
  { name := "colonist.move"
    family := "colony.colonist"
    sample := "move colonist to (5, 4)"
    forms := [
      ⟨.text "move" :: .space :: .text "colonist" :: .space :: .text "to" :: .gap :: cellThen [],
        fun (x, y, _) => .moveColonist x y⟩,
      ⟨.text "move" :: .space :: .text "colonist" :: .space :: cellThen [],
        fun (x, y, _) => .moveColonist x y⟩,
      ⟨.text "move" :: .gap :: cellThen [], fun (x, y, _) => .moveColonist x y⟩] },
  { name := "colonist.heal"
    family := "colony.colonist"
    sample := "heal colonist"
    forms := [
      ⟨[.text "heal"], fun _ => .heal⟩,
      ⟨[.text "heal", .space, .text "colonist"], fun _ => .heal⟩,
      ⟨[.text "heal(", .gap, .text ")"], fun _ => .heal⟩] },
  { name := "colonist.revive"
    family := "colony.colonist"
    sample := "revive colonist"
    forms := [
      ⟨[.text "revive"], fun _ => .revive⟩,
      ⟨[.text "revive", .space, .text "colonist"], fun _ => .revive⟩,
      ⟨[.text "revive(", .gap, .text ")"], fun _ => .revive⟩] },
  { name := "structure.build"
    family := "colony.structure"
    sample := "build house at (4, 4)"
    forms := [⟨.text "build" :: .space :: .slot .name :: .space :: .text "at" :: .gap ::
      cellThen [], fun (kind, x, y, _) => .build kind x y⟩] },
  { name := "structure.build.call"
    family := "colony.structure"
    sample := "build(\"wall\", 3, 3)"
    forms := [⟨[.text "build(", .gap, .slot .quoted, .gap, .text ",", .gap, .slot .integer, .gap,
      .text ",", .gap, .slot .integer, .gap, .text ")"], fun (kind, x, y, _) => .build kind x y⟩] },
  { name := "structure.demolish"
    family := "colony.structure"
    sample := "demolish at (4, 4)"
    forms := [
      ⟨.text "demolish" :: .gap :: .text "at" :: .gap :: cellThen [],
        fun (x, y, _) => .demolish x y⟩,
      ⟨.text "demolish" :: .gap :: cellThen [], fun (x, y, _) => .demolish x y⟩] },
  { name := "auto"
    family := "colony.control"
    sample := "auto on"
    forms := [⟨[.text "auto", .space, .slot .switch], fun (on, _) => .auto on⟩] },
  { name := "pause"
    family := "colony.control"
    sample := "pause"
    forms := [
      ⟨[.text "pause"], fun _ => .pause⟩,
      ⟨[.text "pause(", .gap, .text ")"], fun _ => .pause⟩] },
  { name := "resume"
    family := "colony.control"
    sample := "resume"
    forms := [
      ⟨[.text "resume"], fun _ => .resume⟩,
      ⟨[.text "resume(", .gap, .text ")"], fun _ => .resume⟩] },
  { name := "weather"
    family := "colony.environment"
    sample := "weather = rainy"
    forms := [⟨[.text "weather", .gap, .text "=", .gap, .slot .value],
      fun (weather, _) => .setWeather weather⟩] },
  { name := "temperature"
    family := "colony.environment"
    sample := "temperature = 25"
    forms := [⟨[.text "temperature", .gap, .text "=", .gap, .slot .integer],
      fun (degrees, _) => .setTemperature degrees⟩] },
  { name := "disaster"
    family := "colony.environment"
    sample := "disaster flood"
    forms := [⟨[.text "disaster", .space, .slot .token], fun (kind, _) => .disaster kind⟩] }]

end Microworlds.Colony

import Microworlds.Strategy.Basic

/-!
# States of the strategy game in JSON
-/

namespace Microworlds.Strategy

instance : Coded Building where
  encode b := .obj [("kind", encode b.kind), ("x", encode b.x), ("y", encode b.y)]
  decode? value := do
    let [kind, x, y] ← value.fields? ["kind", "x", "y"] | none
    return ⟨← field? kind, ← field? x, ← field? y⟩

instance : Coded Troop where
  encode u := .obj [
    ("kind", encode u.kind), ("x", encode u.x), ("y", encode u.y), ("health", encode u.health),
    ("attack", encode u.attack)]
  decode? value := do
    let [kind, x, y, health, attack] ← value.fields? ["kind", "x", "y", "health", "attack"] | none
    return ⟨← field? kind, ← field? x, ← field? y, ← field? health, ← field? attack⟩

instance : Coded Plan where
  encode plan := .obj [("name", encode plan.name), ("goal", encode plan.goal)]
  decode? value := do
    let [name, goal] ← value.fields? ["name", "goal"] | none
    return ⟨← field? name, ← optionalField? goal⟩

instance : Coded State where
  encode state := .obj [
    ("resources", encode state.resources),
    ("buildings", encode state.buildings),
    ("units", encode state.units),
    ("plan", encode state.plan),
    ("turn", encode state.turn)]
  decode? value := do
    let [resources, buildings, units, plan, turn] ←
      value.fields? ["resources", "buildings", "units", "plan", "turn"] | none
    return ⟨← field? resources, ← field? buildings, ← field? units, ← optionalField? plan,
      ← field? turn⟩

end Microworlds.Strategy

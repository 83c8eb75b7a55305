import Microworlds.Colony.Basic

/-!
# States of the colony in JSON
-/

namespace Microworlds.Colony

instance : Coded Colonist where
  encode c := .obj [
    ("name", encode c.name), ("x", encode c.x), ("y", encode c.y), ("hp", encode c.hp),
    ("max_hp", encode c.maxHp), ("downed", encode c.downed)]
  decode? value := do
    let [name, x, y, hp, maxHp, downed] ←
      value.fields? ["name", "x", "y", "hp", "max_hp", "downed"] | none
    return ⟨← field? name, ← field? x, ← field? y, ← field? hp, ← field? maxHp, ← field? downed⟩

instance : Coded Structure where
  encode s := .obj [
    ("kind", encode s.kind), ("x", encode s.x), ("y", encode s.y), ("hp", encode s.hp),
    ("max_hp", encode s.maxHp)]
  decode? value := do
    let [kind, x, y, hp, maxHp] ← value.fields? ["kind", "x", "y", "hp", "max_hp"] | none
    return ⟨← field? kind, ← field? x, ← field? y, ← field? hp, ← field? maxHp⟩

instance : Coded Weather where
  encode weather := .str weather.name
  decode? value := value.innerWord?.bind Weather.named?

instance : Coded State where
  encode state := .obj [
    ("resources", encode state.resources),
    ("colonists", encode state.colonists),
    ("selected", encode state.selected),
    ("structures", encode state.structures),
    ("auto_mode", encode state.autoMode),
    ("paused", encode state.paused),
    ("weather", encode state.weather),
    ("temperature", encode state.temperature)]
  decode? value := do
    let [resources, colonists, selected, structures, autoMode, paused, weather, temperature] ←
      value.fields? ["resources", "colonists", "selected", "structures", "auto_mode", "paused",
        "weather", "temperature"] | none
    return ⟨← field? resources, ← field? colonists, ← optionalField? selected, ← field? structures,
      ← field? autoMode, ← field? paused, ← field? weather, ← field? temperature⟩

end Microworlds.Colony

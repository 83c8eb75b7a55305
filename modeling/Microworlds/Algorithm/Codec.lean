import Microworlds.Algorithm.Basic

/-!
# States of arrays in JSON
-/

namespace Microworlds.Algorithm

instance : Coded State where
  encode state := .obj [("arrays", encode state.arrays), ("output", encode state.output)]
  decode? value := do
    let [arrays, output] ← value.fields? ["arrays", "output"] | none
    return ⟨← field? arrays, ← field? output⟩

end Microworlds.Algorithm

import Microworlds.Hash.Basic

/-!
# States of the hash walkthrough in JSON
-/

namespace Microworlds.Hash

instance : Coded State where
  encode state := .obj [
    ("param", encode state.param),
    ("input", encode state.input),
    ("loop_var", encode state.loopVar),
    ("sum", encode state.sum),
    ("modulus", encode state.modulus),
    ("result", encode state.result)]
  decode? value := do
    let [param, input, loopVar, sum, modulus, result] ←
      value.fields? ["param", "input", "loop_var", "sum", "modulus", "result"] | none
    return ⟨← optionalField? param, ← field? input, ← optionalField? loopVar, ← optionalField? sum,
      ← field? modulus, ← optionalField? result⟩

end Microworlds.Hash

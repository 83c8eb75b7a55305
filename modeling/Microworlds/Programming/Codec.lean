import Microworlds.Programming.Basic

/-!
# States of programs in JSON
-/

namespace Microworlds.Programming

instance : Coded Value where
  encode
    | .int n => encode n
    | .text s => encode s
  decode?
    | .str s => some (.text s)
    | value => (decode? value).map .int

instance : Coded State where
  encode state := .obj [
    ("variables", encode state.bindings),
    ("output", encode state.output),
    ("last_condition", encode state.lastCondition)]
  decode? value := do
    let [bindings, output, condition] ←
      value.fields? ["variables", "output", "last_condition"] | none
    return ⟨← field? bindings, ← field? output, ← optionalField? condition⟩

end Microworlds.Programming

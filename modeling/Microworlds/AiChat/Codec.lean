import Microworlds.AiChat.Basic

/-!
# States of the chat in JSON
-/

namespace Microworlds.AiChat

instance : Coded Mode where
  encode mode := .str mode.name
  decode? value := value.innerWord?.bind Mode.named?

instance : Coded Role where
  encode
    | .user => .str "user"
    | .assistant => .str "assistant"
  decode? value :=
    match value.innerWord? with
    | some "user" => some .user
    | some "assistant" => some .assistant
    | _ => none

instance : Coded Message where
  encode message := .obj [("role", encode message.role), ("content", encode message.content)]
  decode? value := do
    let [role, content] ← value.fields? ["role", "content"] | none
    return ⟨← field? role, ← field? content⟩

instance : Coded Quality where
  encode q := .obj [
    ("clarity", encode q.clarity), ("specificity", encode q.specificity),
    ("context", encode q.context)]
  decode? value := do
    let [clarity, specificity, context] ←
      value.fields? ["clarity", "specificity", "context"] | none
    return ⟨← field? clarity, ← field? specificity, ← field? context⟩

instance : Coded State where
  encode state := .obj [
    ("mode", encode state.mode),
    ("history", encode state.history),
    ("quality", encode state.quality),
    ("suggestions", encode state.suggestions),
    ("refined", encode state.refined),
    ("seed", encode state.seed)]
  decode? value := do
    let [mode, history, quality, suggestions, refined, seed] ←
      value.fields? ["mode", "history", "quality", "suggestions", "refined", "seed"] | none
    return ⟨← field? mode, ← field? history, ← optionalField? quality, ← field? suggestions,
      ← field? refined, ← field? seed⟩

end Microworlds.AiChat

import Microworlds.AiChat.Basic
import Microworlds.Statement.Form

/-!
# Statements of the chat
-/

namespace Microworlds.AiChat

/-- The kinds of statements, in the order in which they are tried. -/
def rules : List (Rule Command) := [
  { name := "mode"
    family := "aichat.mode"
    sample := "set thinking mode \"brainstorm\""
    forms := [⟨[.text "set", .space, .text "thinking", .space, .text "mode", .space, .slot .quoted],
      fun (mode, _) => .setMode mode⟩] },
  { name := "ask"
    family := "aichat.ask"
    sample := "ask \"how do I learn programming\""
    forms := [⟨[.text "ask", .space, .slot .quoted], fun (prompt, _) => .ask prompt⟩] },
  { name := "refine"
    family := "aichat.refine"
    sample := "refine prompt with context"
    forms := [⟨[.text "refine", .space, .text "prompt", .space, .text "with", .space,
      .text "context"], fun _ => .refine⟩] },
  { name := "analyze"
    family := "aichat.analyze"
    sample := "analyze response quality"
    forms := [⟨[.text "analyze", .space, .text "response", .space, .text "quality"],
      fun _ => .analyze⟩] }]

end Microworlds.AiChat

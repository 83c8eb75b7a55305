import Microworlds.AiChat.Quality
import Microworlds.Random.ChaCha
import Microworlds.Effect
import Microworlds.Failure
import Microworlds.Handler

/-!
# Chat

A coach for writing prompts. A prompt gets marks, advice and a reply. The reply is one of three for
the tier of the prompt; which one depends on the seed and on the length of the history alone, so a
session that is repeated gets the same replies.
-/

namespace Microworlds.AiChat

inductive Mode where
  | brainstorm
  | analyze
  | refine
  deriving DecidableEq, Repr

namespace Mode

def name : Mode → String
  | brainstorm => "brainstorm"
  | analyze => "analyze"
  | refine => "refine"

/-- The mode with exactly this name. -/
def named? : String → Option Mode
  | "brainstorm" => some brainstorm
  | "analyze" => some analyze
  | "refine" => some refine
  | _ => none

/-- The mode of an English or a Chinese word. White space around it does not count. -/
def ofWord? (word : String) : Option Mode :=
  match Text.trimmed word with
  | "头脑风暴" => some brainstorm
  | "深度分析" => some analyze
  | "精细优化" => some refine
  | english => named? english

end Mode

inductive Role where
  | user
  | assistant
  deriving DecidableEq, Repr

structure Message where
  role : Role
  content : String
  deriving DecidableEq, Repr

/-- The conversation, with the marks and the advice of the last prompt. -/
structure State where
  mode : Mode
  history : List Message
  quality : Option Quality
  suggestions : List String
  refined : Bool
  seed : UInt64
  deriving DecidableEq, Repr

/-- Before the first statement nothing has been said. -/
def State.initial (seed : UInt64) : State := ⟨.brainstorm, [], none, [], false, seed⟩

inductive Command where
  | setMode (mode : String)
  | ask (prompt : String)
  | refine
  | analyze
  deriving DecidableEq, Repr

/-- The reply to a prompt of a tier after a history of the given length. -/
def reply (seed : UInt64) (turn : Nat) (tier : Tier) : String :=
  tier.replies (Random.chooseOfThree (seed + UInt64.ofNat turn))

/-- The total of some marks. A host may hand in marks whose total is too large. -/
def total (q : Quality) : Except Stop UInt32 :=
  match q.total? with
  | some total => .ok total
  | none => .error .overflow

def ask (prompt : String) : Handler Stop State Effect := do
  Handler.stopIf ((Text.trim prompt.toList).isEmpty) (.refused (.invalid "prompt is empty"))
  let quality := assess prompt
  let tier := Tier.ofTotal (← total quality)
  let answer := reply (← get).seed (← get).history.length tier
  let clarity := quality.clarity
  let specificity := quality.specificity
  let context := quality.context
  let rank := tier.name
  modify fun state =>
    { state with
      history := state.history ++ [⟨.user, prompt⟩, ⟨.assistant, answer⟩]
      quality := some quality
      suggestions := suggestions quality
      refined := false }
  return .plain
    (s!"clarity {clarity}, specificity {specificity}, context {context}: {rank} reply: " ++ answer)

/-- The marks of the last prompt, if the last message is a reply. -/
def answeredQuality? (state : State) : Option Quality :=
  match state.quality, state.history.getLast? with
  | some quality, some ⟨.assistant, _⟩ => some quality
  | _, _ => none

def perform : Command → Handler Stop State Effect
  | .setMode word => do
    let mode ← Handler.required (.refused (.unknown "thinking mode" word)) (Mode.ofWord? word)
    modify fun state => { state with mode }
    return .plain ("thinking mode set to " ++ mode.name)
  | .ask prompt => ask prompt
  | .refine => do
    Handler.stopIf (!(← get).history.any (·.role == .user)) (.refused (.invalid "no prompt to refine"))
    modify fun state => { state with refined := true }
    return .plain ("refine suggestions: " ++ "; ".intercalate (← get).suggestions)
  | .analyze => do
    let quality ← Handler.required (.refused (.invalid "no response to analyze"))
      (answeredQuality? (← get))
    let total ← total quality
    let average := total / 3
    let rank := (Tier.ofTotal total).name
    return .plain s!"response quality: average {average} ({rank})"

end Microworlds.AiChat

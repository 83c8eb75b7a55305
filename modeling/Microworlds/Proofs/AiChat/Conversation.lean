import Microworlds.Proofs.AiChat.Analysis
import Microworlds.Proofs.History

/-!
# Conversations of the chat

A conversation consists of the prompts that were accepted, each with its reply. Which of the replies of a
tier it is depends on the seed and on the number of prompts before, so whatever else is tried between
two prompts leaves no trace in the replies. The marks and the advice are those of the last prompt.
-/

namespace Microworlds.Proofs

open AiChat

abbrev ChatEvent := Event Stop AiChat.Command AiChat.State

/-! ### What commands do -/

/-- The tier of the marks of a prompt. -/
def promptTier (prompt : String) : Tier := exactTier (exactTotal (assess prompt))

/-- The reply to a prompt of a tier behind so many others. -/
def replyBehind (seed : UInt64) (earlier : Nat) (tier : Tier) : String :=
  reply seed (2 * earlier) tier

lemma replyBehind_mem (seed : UInt64) (earlier : Nat) (tier : Tier) :
    ∃ choice, replyBehind seed earlier tier = tier.replies choice :=
  ⟨Random.chooseOfThree (seed + UInt64.ofNat (2 * earlier)), rfl⟩

/-- What each command does to the conversation when it succeeds. -/
inductive ChatChange (state : AiChat.State) : AiChat.Command → AiChat.State → Prop
  | setMode (word : String) (mode : Mode) (hword : Mode.ofWord? word = some mode) :
    ChatChange state (.setMode word) { state with mode }
  | ask (prompt : String) (hprompt : Text.trim prompt.toList ≠ []) :
    ChatChange state (.ask prompt)
      { state with
        history := state.history ++ [⟨.user, prompt⟩,
          ⟨.assistant, reply state.seed state.history.length (promptTier prompt)⟩]
        quality := some (assess prompt)
        suggestions := suggestions (assess prompt)
        refined := false }
  | refine : ChatChange state .refine { state with refined := true }
  | analyze : ChatChange state .analyze state

variable {state after : AiChat.State} {command : AiChat.Command} {effect : Effect}

lemma exactTotal_assess (prompt : String) : exactTotal (assess prompt) < 2 ^ 32 := by
  by_contra hlarge
  obtain ⟨sum, hsum⟩ := assess_fits prompt
  rw [total_of_le (Nat.not_lt.mp hlarge)] at hsum
  cases hsum

lemma ask_change {prompt : String} (h : AiChat.ask prompt state = .ok effect after) :
    ChatChange state (.ask prompt) after := by
  obtain ⟨hprompt, h⟩ := bind_stopIf_ok h
  obtain ⟨sum, hsum, h⟩ := bind_liftM_ok h
  obtain ⟨exact, hexact, htotal⟩ := total_of_lt (exactTotal_assess prompt)
  rw [hexact] at hsum
  cases hsum
  have htier : Tier.ofTotal sum = promptTier prompt := by
    rw [ofTotal_eq, htotal, promptTier]
  cases h
  rw [htier]
  exact .ask prompt (by simpa using hprompt)

lemma chat_change (h : perform command state = .ok effect after) :
    ChatChange state command after := by
  cases command with
  | setMode word =>
    obtain ⟨mode, hword, h⟩ := bind_required_ok h
    cases h
    exact .setMode word mode hword
  | ask prompt => exact ask_change h
  | refine =>
    obtain ⟨-, h⟩ := bind_stopIf_ok (bind_get_ok h)
    cases h
    exact .refine
  | analyze =>
    obtain ⟨quality, -, h⟩ := bind_required_ok (bind_get_ok h)
    obtain ⟨sum, -, h⟩ := bind_liftM_ok h
    cases h
    exact .analyze

/-! ### Histories -/

/-- The prompts that were accepted, in the order in which they were asked. -/
def asked (events : List ChatEvent) : List String :=
  (carriedOut events).filterMap fun
    | .ask prompt => some prompt
    | _ => none

/-- The messages of a prompt at its place among the others. -/
def exchange (seed : UInt64) (j : Nat) (prompt : String) : List Message :=
  [⟨.user, prompt⟩, ⟨.assistant, replyBehind seed j (promptTier prompt)⟩]

/-- A prompt and its reply in turn. -/
def exchanges (seed : UInt64) (prompts : List String) : List Message :=
  prompts.zipIdx.flatMap fun (prompt, j) => exchange seed j prompt

/-- The conversation of some prompts. -/
structure Conversation (seed : UInt64) (prompts : List String) (state : AiChat.State) : Prop where
  start : state.seed = seed
  history : state.history = exchanges seed prompts
  quality : state.quality = prompts.getLast?.map assess
  suggestions : state.suggestions = (prompts.getLast?.map (suggestions ∘ assess)).getD []

variable {seed : UInt64} {prompts : List String}

lemma exchanges_concat (seed : UInt64) (prompts : List String) (prompt : String) :
    exchanges seed (prompts ++ [prompt]) =
      exchanges seed prompts ++ exchange seed prompts.length prompt := by
  unfold exchanges
  rw [List.zipIdx_append, List.flatMap_append, Nat.zero_add]
  exact congrArg _ (List.append_nil _)

lemma length_exchanges (seed : UInt64) (prompts : List String) :
    (exchanges seed prompts).length = 2 * prompts.length := by
  induction prompts using List.reverseRecOn with
  | nil => rfl
  | append_singleton prompts prompt ih =>
    rw [exchanges_concat, List.length_append, ih, List.length_append]
    change 2 * prompts.length + 2 = 2 * (prompts.length + 1)
    omega

lemma exchanges_getElem? {j : Nat} {prompt : String} (h : prompts[j]? = some prompt) :
    (exchanges seed prompts)[2 * j]? = some ⟨.user, prompt⟩ ∧
      (exchanges seed prompts)[2 * j + 1]? =
        some ⟨.assistant, replyBehind seed j (promptTier prompt)⟩ := by
  induction prompts using List.reverseRecOn with
  | nil => cases h
  | append_singleton prompts last ih =>
    have hlength := length_exchanges seed prompts
    rw [exchanges_concat]
    by_cases hj : j < prompts.length
    · rw [List.getElem?_append_left hj] at h
      rw [List.getElem?_append_left (by omega), List.getElem?_append_left (by omega)]
      exact ih h
    · rw [List.getElem?_append_right (Nat.not_lt.mp hj)] at h
      obtain ⟨hlast, hprompt⟩ := List.getElem?_eq_some_iff.mp h
      have hplace : j = prompts.length := by
        rw [List.length_singleton] at hlast
        omega
      subst hplace
      rw [List.getElem?_append_right (by omega), List.getElem?_append_right (by omega), hlength,
        Nat.sub_self, Nat.add_sub_cancel_left]
      simp only [Nat.sub_self, List.getElem_cons_zero] at hprompt
      rw [hprompt]
      exact ⟨rfl, rfl⟩

lemma Conversation.change (h : Conversation seed prompts state)
    (hchange : ChatChange state command after) :
    Conversation seed (prompts ++ (match command with
      | .ask prompt => [prompt]
      | _ => [])) after := by
  cases hchange with
  | ask prompt hprompt =>
    have hlength : state.history.length = 2 * prompts.length := by
      rw [h.history, length_exchanges]
    refine ⟨h.start, ?_, ?_, ?_⟩
    · rw [exchanges_concat, ← h.history, hlength, h.start]
      rfl
    · rw [List.getLast?_concat]
      rfl
    · rw [List.getLast?_concat]
      rfl
  | setMode word mode hword => simpa using { h with }
  | refine => simpa using { h with }
  | analyze => simpa using h

lemma conversation_history (seed : UInt64) (commands : List AiChat.Command) :
    Conversation seed (asked (history perform (.initial seed) commands))
      (reached perform (.initial seed) commands) := by
  refine history_induction aiChat_atomic
    (motive := fun events state => Conversation seed (asked events) state) ⟨rfl, rfl, rfl, rfl⟩ ?_ ?_
    commands
  · intro events state command effect after h hperform
    have hchange := h.change (chat_change hperform)
    unfold asked at hchange ⊢
    rw [carriedOut_success, List.filterMap_append]
    cases command <;> exact hchange
  · intro events state command e h
    unfold asked at h ⊢
    rwa [carriedOut_failure]

lemma marksFit_conversation (h : Conversation seed prompts state) : MarksFit state := by
  intro quality hquality
  rw [h.quality] at hquality
  obtain ⟨prompt, -, rfl⟩ := Option.map_eq_some_iff.mp hquality
  exact assess_fits prompt

lemma outcome_ne_overflow {commands : List AiChat.Command} {event : ChatEvent}
    (h : event ∈ history perform (.initial seed) commands) : event.outcome ≠ .error .overflow := by
  intro hover
  obtain ⟨earlier, -, -, hhappen⟩ := mem_history h
  have hbefore : event.before = reached perform (.initial seed) earlier := by
    rw [hhappen]
    unfold happen
    split <;> rfl
  have hmarks : MarksFit event.before :=
    hbefore ▸ marksFit_conversation (conversation_history seed earlier)
  have hends := aiChat_keeps event.command event.before hmarks
  rw [perform_of_error h hover] at hends
  exact hends rfl

/-- Conversations are reproducible. After any commands, tried with success or without, the history
has the prompts that were accepted in their order, each followed by its reply. The marks are those of
the last prompt and the advice is that for these marks; both are there as soon as there is a history.
A reply is one of those of the tier of its prompt, and the seed, the number of prompts before and the
tier alone decide which one. So if two conversations with the same seed have the same prompt at the
same place, they have the same reply there. -/
theorem conversation_reproducible (seed : UInt64) (commands : List AiChat.Command) :
    let events := history perform (.initial seed) commands
    let state := reached perform (.initial seed) commands
    let prompts := asked events
    state.history.length = 2 * prompts.length ∧
    (∀ j prompt, prompts[j]? = some prompt →
      state.history[2 * j]? = some ⟨.user, prompt⟩ ∧
      state.history[2 * j + 1]? = some ⟨.assistant, replyBehind seed j (promptTier prompt)⟩ ∧
      ∃ choice, replyBehind seed j (promptTier prompt) = (promptTier prompt).replies choice) ∧
    state.quality = prompts.getLast?.map assess ∧
    state.suggestions = (state.quality.map suggestions).getD [] ∧
    (state.quality ≠ none ↔ state.history ≠ []) ∧
    (state.suggestions ≠ [] ↔ state.history ≠ []) ∧
    (∀ event ∈ events, event.outcome ≠ .error .overflow) ∧
    ∀ others j prompt, prompts[j]? = some prompt →
      (asked (history perform (.initial seed) others))[j]? = some prompt →
        state.history[2 * j + 1]? = (reached perform (.initial seed) others).history[2 * j + 1]? := by
  intro events state prompts
  have h : Conversation seed prompts state := conversation_history seed commands
  have hlength : state.history.length = 2 * prompts.length := by
    rw [h.history, length_exchanges]
  have hsuggestions : state.suggestions = (state.quality.map suggestions).getD [] := by
    rw [h.suggestions, h.quality, Option.map_map]
  have hhistory : state.history ≠ [] ↔ prompts ≠ [] := by
    rw [← List.length_pos_iff, ← List.length_pos_iff, hlength]
    omega
  have hquality : state.quality ≠ none ↔ prompts ≠ [] := by
    rw [h.quality, Ne, Option.map_eq_none_iff, List.getLast?_eq_none_iff]
  refine ⟨hlength, fun j prompt hprompt => ?_, h.quality, hsuggestions, hquality.trans hhistory.symm,
    ?_, fun event hevent => outcome_ne_overflow hevent, fun others j prompt hprompt hother => ?_⟩
  · obtain ⟨huser, hreply⟩ := exchanges_getElem? hprompt
    rw [h.history]
    exact ⟨huser, hreply, replyBehind_mem seed j _⟩
  · rw [hsuggestions, hhistory, ← hquality]
    cases state.quality with
    | none => simp
    | some quality => simp [suggestions]
  · rw [h.history, (conversation_history seed others).history, (exchanges_getElem? hprompt).2,
      (exchanges_getElem? hother).2]

/-- There is nothing to refine or to analyse at first, and a blank prompt and an unknown mode are refused. -/
def haltingTalk : List AiChat.Command :=
  [.refine, .analyze, .ask "help", .ask "  ", .setMode "daydream", .refine, .ask "What is 2 + 2?",
    .analyze]

/-- Another first prompt, and nothing between it and the second one. -/
def shortTalk : List AiChat.Command := [.ask "Design a sorting algorithm", .ask "What is 2 + 2?"]

theorem second_replies_same :
    asked (history perform (.initial 7) haltingTalk) = ["help", "What is 2 + 2?"] ∧
    (reached perform (.initial 7) haltingTalk).history.length = 4 ∧
    (reached perform (.initial 7) haltingTalk).history[3]? =
      (reached perform (.initial 7) shortTalk).history[3]? := by
  have hhalting : asked (history perform (.initial 7) haltingTalk) = ["help", "What is 2 + 2?"] := by
    decide +kernel
  have hshort : asked (history perform (.initial 7) shortTalk) =
      ["Design a sorting algorithm", "What is 2 + 2?"] := by
    decide +kernel
  obtain ⟨hlength, -, -, -, -, -, -, hsame⟩ := conversation_reproducible 7 haltingTalk
  rw [hhalting] at hlength hsame
  exact ⟨hhalting, hlength, hsame shortTalk 1 "What is 2 + 2?" rfl (by rw [hshort]; rfl)⟩

end Microworlds.Proofs

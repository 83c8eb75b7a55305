import Microworlds.Proofs.Reached

/-!
# Programs that come to their end

A program can only break down in a chat whose marks have no sum of 32 bits, which are marks that a host
has handed in. On every other state it is carried out to its end.
-/

namespace Microworlds.Proofs

/-- The marks of a chat have a sum. There are no marks in another state. -/
def Reckonable : State → Prop
  | .aiChat state => MarksFit state
  | _ => True

/-- No world but the chat can break down, so only its commands have anything to show for a property
that all states of other worlds have. -/
lemma perform_keeps_of_chat {keeps : State → Prop} {command : Command}
    (hothers : ∀ state : State, state.scenario ≠ .aiChat → keeps state)
    (hchat : ∀ asked, command = .aiChat asked →
      Keeps (fun state => keeps (.aiChat state)) (· ≠ .overflow) (AiChat.perform asked)) :
    Keeps keeps (· ≠ .overflow) command.perform := by
  intro state hstate
  unfold Command.perform
  split
  · exact ends_within _ _ (fun _ => hothers _ nofun) fun _ => nofun
  · exact ends_within _ _ (fun _ => hothers _ nofun) fun _ => nofun
  · exact ends_within _ _ (fun _ => hothers _ nofun) fun _ => nofun
  · exact ends_within _ _ (fun _ => hothers _ nofun) fun _ => nofun
  · exact ends_within _ _ (fun _ => hothers _ nofun) fun _ => nofun
  · exact ends_within _ _ (fun _ => hothers _ nofun) fun _ => nofun
  · exact ends_within _ _ (fun _ => hothers _ nofun) fun _ => nofun
  · exact ends_within _ _ (fun _ => hothers _ nofun) fun _ => nofun
  · refine (hchat _ rfl).within (fun _ h => ?_) (fun _ h => ?_) hstate
    · exact h
    · exact h
  · exact ends_within _ _ (fun _ => hothers _ nofun) fun _ => nofun
  · exact nofun

lemma reckonable_of_other {state : State} (h : state.scenario ≠ .aiChat) : Reckonable state := by
  cases state with
  | aiChat => exact absurd rfl h
  | _ => trivial

lemma perform_keeps_reckonable (command : Command) :
    Keeps Reckonable (· ≠ .overflow) command.perform :=
  perform_keeps_of_chat (fun _ => reckonable_of_other) fun asked _ => aiChat_keeps asked

lemma execute_keeps_reckonable (rules : List (Rule Command)) (line : String) :
    Keeps Reckonable (· ≠ .overflow) (execute rules line) :=
  keeps_check (fun statement _ => perform_keeps_reckonable statement.command) fun _ => nofun

lemma runStatements_reckonable (rules : List (Rule Command)) {state : State}
    (hstate : Reckonable state) (statements : List (Nat × String)) :
    ∃ results last, runStatements rules state statements = some (results, last) ∧ Reckonable last :=
  runStatements_kept (execute_keeps_reckonable rules) hstate statements

end Microworlds.Proofs

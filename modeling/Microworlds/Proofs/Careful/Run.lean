import Microworlds.Proofs.Overflow
import Microworlds.Proofs.Text
import Microworlds.Proofs.Careful.Commands

/-!
# Programs that are carried out with care

The lines of a program are counted, and each is carried out by its command. In a scenario other than the
chat only one fault can be met, whatever the state holds: the colonists that an earthquake downs are
counted with a number of 32 bits with a sign, and they may be more than it can count.
-/

namespace Microworlds.Proofs

variable {ε δ σ τ α : Type}

namespace Careful

/-- Carries out a command on the state of its scenario. -/
def perform (command : Command) : Handler (Halt Stop) State Effect := fun state =>
  match state, command with
  | .algorithm s, .algorithm c => (algorithm c).within .algorithm (Halt.map Stop.refused) s
  | .dataStructure s, .dataStructure c =>
    (dataStructure c).within .dataStructure (Halt.map Stop.refused) s
  | .math s, .math c => (math c).within .math (Halt.map Stop.failed) s
  | .game s, .game c => (game c).within .game (Halt.map Stop.refused) s
  | .hash s, .hash c => (hash c).within .hash (Halt.map Stop.refused) s
  | .colony s, .colony c => (colony c).within .colony (Halt.map Stop.refused) s
  | state, command => plainly command.perform state

def execute (rules : List (Rule Command)) (line : String) : Handler (Halt Stop) State Effect := do
  let statement ← Handler.check (.stop ∘ Stop.notUnderstood) (classify rules line)
  perform statement.command

/-- Carries out a line and says what came of it. A count that leaves its range is a fault. -/
def attempt (rules : List (Rule Command)) (state : State) (number : Nat) (line : String) :
    Careful Empty (LineResult × State) :=
  match execute rules line state with
  | .ok effect next => .ok (⟨number, line, .success effect⟩, next)
  | .error (.stop (.failed failure)) next =>
    .ok (⟨number, line, .failure failure.kind failure.message⟩, next)
  | .error (.stop .overflow) _ => fail .overflow
  | .error (.fault reason) _ => fail reason

def runStatements (rules : List (Rule Command)) : State → List (Nat × String) → Careful Empty Run
  | state, [] => .ok ([], state)
  | state, (number, line) :: more => do
    let (result, next) ← attempt rules state number line
    let (results, last) ← runStatements rules next more
    return (result :: results, last)

/-- The statements among lines of which the given number stand before them. -/
def numbered (held : Nat) : Nat → List (List Char) → Careful ε (List (Nat × String))
  | _, [] => .ok []
  | before, line :: more => do
    let number ← increase held before
    let others ← numbered held number more
    match Text.statement? line with
    | some said => return (number, said) :: others
    | none => return others

/-- Carries out a program text. It has at most one line more than it has characters. -/
def interpret (scenario : Scenario) (state : State) (code : String) : Careful Empty Run := do
  let text := code.toList
  let statements ← numbered (text.length + 1) 0 (Text.pieces '\n' text)
  runStatements (rulesOf scenario) state statements

end Careful

/-! ### Commands -/

/-- A command downs more colonists than can be counted. -/
def Overwhelms (command : Command) (state : State) : Prop :=
  ∃ colony asked, state = .colony colony ∧ command = .colony asked ∧ Uncountable colony asked

lemma within_plainly {careful : Handler (Halt ε) τ α} {m : Handler ε τ α} {start : τ}
    (h : careful start = plainly m start) (wrap : τ → σ) (stop : ε → δ) :
    careful.within wrap (Halt.map stop) start =
      plainly (fun _ => m.within wrap stop start) (wrap start) := by
  unfold Handler.within
  rw [h]
  unfold plainly EStateM.adaptExcept
  simp only
  cases m start <;> rfl

lemma careful_perform_eq {command : Command} {state : State} (h : ¬ Overwhelms command state) :
    Careful.perform command state = plainly command.perform state := by
  unfold Careful.perform
  split
  · exact within_plainly (congrFun (algorithm_eq _) _) _ _
  · exact within_plainly (congrFun (dataStructure_eq _) _) _ _
  · exact within_plainly (congrFun (math_eq _) _) _ _
  · exact within_plainly (congrFun (game_eq _) _) _ _
  · exact within_plainly (congrFun (hash_eq _) _) _ _
  · exact within_plainly (colony_eq fun hmore => h ⟨_, _, rfl, rfl, hmore⟩) _ _
  · rfl

lemma careful_perform_overflows {command : Command} {state : State} (h : Overwhelms command state) :
    ∃ next, Careful.perform command state = .error (.fault .overflow) next := by
  obtain ⟨colony, asked, rfl, rfl, hmore⟩ := h
  obtain ⟨next, hrun⟩ := colony_overflows hmore
  refine ⟨State.colony next, ?_⟩
  change (Careful.colony asked).within State.colony (Halt.map Stop.refused) colony = _
  unfold Handler.within
  rw [hrun]
  rfl

/-- A line is understood as a command that downs more colonists than can be counted. -/
def Overwhelming (rules : List (Rule Command)) (state : State) (line : String) : Prop :=
  ∃ statement, classify rules line = .ok statement ∧ Overwhelms statement.command state

variable {rules : List (Rule Command)} {state : State} {line : String}

lemma execute_eq (h : ¬ Overwhelming rules state line) :
    Careful.execute rules line state = plainly (execute rules line) state := by
  unfold Careful.execute execute
  cases hline : classify rules line with
  | error e => rfl
  | ok statement => exact careful_perform_eq fun hmore => h ⟨statement, hline, hmore⟩

lemma execute_overflows (h : Overwhelming rules state line) :
    ∃ next, Careful.execute rules line state = .error (.fault .overflow) next := by
  obtain ⟨statement, hline, hmore⟩ := h
  unfold Careful.execute
  rw [hline]
  exact careful_perform_overflows hmore

/-! ### Colonists that can be counted -/

/-- There are no more colonists than can be counted. -/
def FewColonists : State → Prop
  | .colony state => state.colonists.length ≤ greatestCount
  | _ => True

lemma not_overwhelming (h : FewColonists state) : ¬ Overwhelming rules state line := by
  rintro ⟨statement, -, colony, asked, rfl, -, hmore⟩
  cases asked with
  | disaster kind =>
    have hfelled : felled colony.colonists ≤ colony.colonists.length := List.countP_le_length
    have hfew : colony.colonists.length ≤ greatestCount := h
    have hmany := hmore.2
    omega
  | _ => exact hmore

lemma ColonyChange.length_colonists {state after : Colony.State} {command : Colony.Command}
    (h : ColonyChange state command after) : after.colonists.length = state.colonists.length := by
  cases h with
  | moveColonist => exact List.length_set
  | heal => exact List.length_set
  | revive front back colonist hcolonists => simp [hcolonists]
  | earthquake => exact List.length_map _
  | _ => rfl

/-- A state of a scenario other than the chat, whose colonists can be counted. -/
structure Calculable (state : State) : Prop where
  noChat : state.scenario ≠ .aiChat
  colonists : FewColonists state

lemma colony_keeps_count (command : Colony.Command) :
    Keeps (fun state => state.colonists.length ≤ greatestCount) (fun _ => True)
      (Colony.perform command) := by
  intro state hstate
  cases hrun : Colony.perform command state with
  | ok effect after => exact (colony_change hrun).length_colonists.trans_le hstate
  | error e after => trivial

lemma perform_keeps_calculable (command : Command) :
    Keeps Calculable (· ≠ .overflow) command.perform := by
  rintro state ⟨hchat, hcolonists⟩
  unfold Command.perform
  split
  · exact ends_within _ _ (fun _ => ⟨nofun, trivial⟩) fun _ => nofun
  · exact ends_within _ _ (fun _ => ⟨nofun, trivial⟩) fun _ => nofun
  · exact ends_within _ _ (fun _ => ⟨nofun, trivial⟩) fun _ => nofun
  · exact ends_within _ _ (fun _ => ⟨nofun, trivial⟩) fun _ => nofun
  · exact ends_within _ _ (fun _ => ⟨nofun, trivial⟩) fun _ => nofun
  · exact ends_within _ _ (fun _ => ⟨nofun, trivial⟩) fun _ => nofun
  · exact ends_within _ _ (fun _ => ⟨nofun, trivial⟩) fun _ => nofun
  · exact ends_within _ _ (fun _ => ⟨nofun, trivial⟩) fun _ => nofun
  · exact absurd rfl hchat
  · exact (colony_keeps_count _).within (fun _ h => ⟨nofun, h⟩) (fun _ _ => nofun) hcolonists
  · exact nofun

/-! ### Lines and programs -/

lemma execute_keeps_calculable (rules : List (Rule Command)) (line : String) :
    Keeps Calculable (· ≠ .overflow) (execute rules line) :=
  keeps_check (fun statement _ => perform_keeps_calculable statement.command) fun _ => nofun

variable {number : Nat} {statements : List (Nat × String)}

lemma attempt_eq {done : LineResult × State} (h : ¬ Overwhelming rules state line)
    (hdone : attempt rules state number line = some done) :
    Careful.attempt rules state number line = .ok done := by
  unfold Careful.attempt
  rw [execute_eq h]
  unfold plainly EStateM.adaptExcept
  unfold attempt at hdone
  cases hrun : execute rules line state with
  | ok effect next =>
    rw [hrun] at hdone
    exact congrArg Except.ok (Option.some.inj hdone)
  | error stop next =>
    rw [hrun] at hdone
    cases stop with
    | failed failure => exact congrArg Except.ok (Option.some.inj hdone)
    | overflow => cases hdone

lemma attempt_overflows (h : Overwhelming rules state line) :
    Careful.attempt rules state number line = Careful.fail .overflow := by
  obtain ⟨next, hrun⟩ := execute_overflows h
  unfold Careful.attempt
  rw [hrun]

/-- Some statement downs more colonists than can be counted, on the state that the statements before it
leave. -/
inductive Overwhelmed (rules : List (Rule Command)) : State → List (Nat × String) → Prop
  | here {state : State} {number : Nat} {line : String} {more : List (Nat × String)}
      (h : Overwhelming rules state line) : Overwhelmed rules state ((number, line) :: more)
  | later {state next : State} {number : Nat} {line : String} {more : List (Nat × String)}
      {result : LineResult} (hattempt : attempt rules state number line = some (result, next))
      (h : Overwhelmed rules next more) : Overwhelmed rules state ((number, line) :: more)

lemma runStatements_eq {run : Run} (h : ¬ Overwhelmed rules state statements)
    (hrun : runStatements rules state statements = some run) :
    Careful.runStatements rules state statements = .ok run := by
  induction statements generalizing state run with
  | nil =>
    cases hrun
    rfl
  | cons statement more ih =>
    simp only [runStatements, Option.bind_eq_bind, Option.bind_eq_some_iff] at hrun
    obtain ⟨⟨result, next⟩, hattempt, ⟨results, last⟩, hmore, hpure⟩ := hrun
    cases hpure
    have hcareful := attempt_eq (fun hhere => h (.here hhere)) hattempt
    have hbehind := ih (fun hlater => h (.later hattempt hlater)) hmore
    rw [Careful.runStatements]
    simp only [hcareful, Careful.ok_bind, hbehind]
    rfl

lemma runStatements_overflows (h : Overwhelmed rules state statements) :
    Careful.runStatements rules state statements = Careful.fail .overflow := by
  induction h with
  | here h =>
    rw [Careful.runStatements, attempt_overflows h]
    rfl
  | later hattempt h ih =>
    rename_i state next number line more result
    rw [Careful.runStatements]
    -- the fault may come from this line already
    by_cases hhere : Overwhelming rules state line
    · rw [attempt_overflows hhere]
      rfl
    · simp only [attempt_eq hhere hattempt, Careful.ok_bind, ih]
      rfl

lemma not_overwhelmed (hstate : Calculable state) : ¬ Overwhelmed rules state statements := by
  intro h
  induction h with
  | here h => exact not_overwhelming hstate.colonists h
  | later hattempt h ih =>
    rename_i state next number line more result
    obtain ⟨result, after, hkept, hafter⟩ :=
      attempt_kept (execute_keeps_calculable rules line) hstate number
    rw [hattempt] at hkept
    cases hkept
    exact ih hafter

lemma numbered_eq {held before : Nat} {lines : List (List Char)} (h : before + lines.length ≤ held) :
    (Careful.numbered held before lines : Careful ε _) = .ok (Text.numbered (before + 1) lines) := by
  induction lines generalizing before with
  | nil => rfl
  | cons line more ih =>
    rw [List.length_cons] at h
    have hlt : before < held := by omega
    have hmore := ih (show before + 1 + more.length ≤ held by omega)
    rw [Careful.numbered, Text.numbered, Careful.increase_of_lt hlt, Careful.ok_bind, hmore,
      Careful.ok_bind]
    cases Text.statement? line <;> rfl

lemma careful_interpret_eq (scenario : Scenario) (state : State) (code : String) :
    Careful.interpret scenario state code =
      Careful.runStatements (rulesOf scenario) state (Text.statements code) := by
  have hlines : 0 + (Text.pieces '\n' code.toList).length ≤ code.toList.length + 1 := by
    have hcount := List.count_le_length (a := '\n') (l := code.toList)
    rw [length_pieces]
    omega
  unfold Careful.interpret
  simp only [numbered_eq hlines, Careful.ok_bind]
  rfl

/-- In a scenario other than the chat no program divides by zero, takes a number from a smaller one, or
looks, exchanges or removes outside a list, whatever the fields of its state are. The range of a number is
left only by an earthquake that downs more colonists than a number of 32 bits with a sign can count, and
then always. What meets no fault comes to the end that it comes to with exact numbers. -/
theorem interpret_overflows_iff (scenario : Scenario) (state : State) (code : String)
    (hchat : state.scenario ≠ .aiChat) :
    let careful := Careful.interpret scenario state code
    ∃ run, interpret scenario state code = some run ∧
      (careful = .ok run ∨ careful = Careful.fail .overflow) ∧
      (careful = Careful.fail .overflow ↔
        Overwhelmed (rulesOf scenario) state (Text.statements code)) ∧
      (FewColonists state → careful = .ok run) := by
  intro careful
  have hcareful : careful = Careful.runStatements (rulesOf scenario) state (Text.statements code) :=
    careful_interpret_eq scenario state code
  obtain ⟨results, last, hrun, -⟩ :=
    runStatements_kept (execute_keeps_reckonable (rulesOf scenario)) (reckonable_of_other hchat)
      (Text.statements code)
  refine ⟨(results, last), hrun, ?_⟩
  rw [hcareful]
  by_cases h : Overwhelmed (rulesOf scenario) state (Text.statements code)
  · have hoverflow := runStatements_overflows h
    rw [hoverflow]
    exact ⟨.inr rfl, iff_of_true rfl h, fun hfew => absurd h (not_overwhelmed ⟨hchat, hfew⟩)⟩
  · rw [runStatements_eq h hrun]
    exact ⟨.inl rfl, iff_of_false nofun h, fun _ => rfl⟩

/-- The colonist to be healed is not there, and an earthquake downs the only colonist. -/
theorem struck_colony_counted :
    let state : State := .colony
      { Colony.State.initial with
        colonists := [⟨"Ada", Int64.maxValue, Int64.minValue, 3, 10, false⟩]
        selected := some 9 }
    let code := "heal\n\ndisaster earthquake"
    let refused : LineResult := ⟨1, "heal", .failure .precondition "no colonist selected"⟩
    let struck : LineResult := ⟨3, "disaster earthquake",
      .success (.plain "earthquake struck: 0 of 0 structures destroyed, 1 colonists downed")⟩
    ∃ last, interpret .colony state code = some ([refused, struck], last) ∧
      Careful.interpret .colony state code = .ok ([refused, struck], last) := by
  intro state code refused struck
  have hresults : (interpret .colony state code).map (·.1) = some [refused, struck] := by
    decide +kernel
  have hfew : FewColonists state := by
    change 1 ≤ greatestCount
    decide
  obtain ⟨⟨results, last⟩, hrun, -, -, hcareful⟩ :=
    interpret_overflows_iff .colony state code nofun
  rw [hrun] at hresults
  cases hresults
  exact ⟨last, hrun, hcareful hfew⟩

/-- One colonist more than can be counted, and none of them survives an earthquake unharmed. -/
def crowd : State :=
  .colony { Colony.State.initial with
    colonists := List.replicate 2147483648 ⟨"Ada", 10, 10, 3, 10, false⟩ }

lemma crowd_overwhelmed :
    Overwhelmed (rulesOf .colony) crowd (Text.statements "disaster earthquake") := by
  have hstatements : Text.statements "disaster earthquake" = [(1, "disaster earthquake")] := by
    decide +kernel
  have hline : classify (rulesOf .colony) "disaster earthquake" =
      .ok ⟨.colony (.disaster "earthquake"), "disaster", "colony.environment", "disaster earthquake"⟩ := by
    rfl
  have hfelled : felled (List.replicate 2147483648 ⟨"Ada", 10, 10, 3, 10, false⟩) = 2147483648 := by
    rw [felled, List.countP_replicate]
    rfl
  rw [hstatements]
  refine .here ⟨_, hline, _, _, rfl, rfl, by simp [earthquakes], ?_⟩
  rw [hfelled]
  decide

/-- An earthquake downs more colonists than a number of 32 bits with a sign can count. -/
theorem crowd_overflows :
    crowd.scenario ≠ .aiChat ∧
      Careful.interpret .colony crowd "disaster earthquake" = Careful.fail .overflow := by
  refine ⟨nofun, ?_⟩
  rw [careful_interpret_eq]
  exact runStatements_overflows crowd_overwhelmed

end Microworlds.Proofs

import Microworlds.Lesson
import Microworlds.Proofs.Reached

/-!
# A session stays in its scenario

The rules of a scenario build commands of that scenario only, and a command leaves a state of the
scenario that it was carried out on. So the state of a session is of the scenario of the session
whatever is asked of it, and no line comes to a state of another scenario. A reset leaves nothing of
what was before.
-/

namespace Microworlds.Proofs

/-- What can be asked of a session. -/
inductive Call where
  | run (code : String)
  | reset
  /-- The lesson of the session's scenario, its blocks in some order. -/
  | lesson (order : List Nat)

inductive Answer where
  | results (results : List LineResult)
  | restarted
  | outOfOrder (mismatch : OrderMismatch)

/-- What a call gives, and the state of the session after it. -/
structure Reply where
  answer : Answer
  state : State

/-- A session after a run, with the reply to it. -/
def replied (ran : List LineResult × Session) : Reply × Session :=
  (⟨.results ran.1, ran.2.state⟩, ran.2)

/-- Answers a call. Nothing comes out if a count leaves its range. -/
def call (session : Session) : Call → Option (Reply × Session)
  | .run code => (session.run code).map replied
  | .reset => some (⟨.restarted, session.reset.state⟩, session.reset)
  | .lesson order =>
    match session.runLesson order with
    | .ok ran => ran.map replied
    | .error mismatch => some (⟨.outOfOrder mismatch, session.state⟩, session)

/-- Answers calls one after the other. -/
def calls : Session → List Call → Option (List Reply × Session)
  | session, [] => some ([], session)
  | session, asked :: more => do
    let (reply, next) ← call session asked
    let (replies, last) ← calls next more
    return (reply :: replies, last)

/-! ### Lines -/

lemma rule_scenario {scenario : Scenario} {rule : Rule Command} (hrule : rule ∈ rulesOf scenario)
    {line : List Char} {command : Command} (h : rule.match? line = some (.ok command)) :
    command.scenario = scenario := by
  have hmapped : ∀ {κ : Type} {wrap : κ → Command} {rules : List (Rule κ)},
      rule ∈ rules.map (.map wrap) → ∃ said, command = wrap said := by
    intro κ wrap rules hmem
    obtain ⟨own, -, rfl⟩ := List.mem_map.1 hmem
    rw [match?_map] at h
    obtain ⟨result, -, h⟩ := Option.map_eq_some_iff.1 h
    cases result with
    | error e => cases h
    | ok said => cases h; exact ⟨said, rfl⟩
  cases scenario <;> obtain ⟨said, rfl⟩ := hmapped hrule <;> rfl

lemma classify_scenario {scenario : Scenario} {line : String} {statement : Statement}
    (h : classify (rulesOf scenario) line = .ok statement) :
    statement.command.scenario = scenario := by
  unfold classify at h
  simp only at h
  split at h
  · cases h
  · cases h
  · next rule command hfirst =>
    cases h
    obtain ⟨found, hfound, hmatch⟩ := List.exists_of_findSome?_eq_some hfirst
    obtain ⟨said, hsaid, hmatch⟩ := Option.map_eq_some_iff.1 hmatch
    cases hmatch
    exact rule_scenario hfound hsaid

/-- A command of another scenario is refused. -/
theorem perform_mismatch {state : State} {command : Command} (h : command.scenario ≠ state.scenario) :
    command.perform state = .error (state.mismatch command) state := by
  unfold Command.perform
  split <;> first | exact absurd rfl h | rfl

lemma perform_scenario (command : Command) (scenario : Scenario) :
    Keeps (·.scenario = scenario) (fun _ => True) command.perform := by
  have hwithin : ∀ {δ τ : Type} (m : Handler δ τ Effect) {wrap : τ → State} {stop : δ → Stop}
      (start : τ), (∀ t, (wrap t).scenario = scenario) →
        Ends (·.scenario = scenario) (fun _ => True) (m.within wrap stop start) :=
    fun m _ _ _ hwrap => (keeps_true m).within (fun t _ => hwrap t) (fun _ _ => trivial) trivial
  rintro state rfl
  unfold Command.perform
  split <;> first | exact hwithin _ _ fun _ => rfl | trivial

lemma attempt_scenario {rules : List (Rule Command)} {state next : State} {number : Nat}
    {line : String} {result : LineResult}
    (h : attempt rules state number line = some (result, next)) :
    next.scenario = state.scenario := by
  have hkeeps : Keeps (·.scenario = state.scenario) (fun _ => True) (execute rules line) :=
    keeps_check (fun statement _ => perform_scenario statement.command state.scenario)
      fun _ => trivial
  have hends := hkeeps state rfl
  unfold attempt at h
  split at h
  · next effect after hrun =>
    rw [hrun] at hends
    cases h
    exact hends
  · next failure after hrun =>
    cases h
    rw [execute_atomic rules line state _ _ hrun]
  · cases h

lemma runStatements_scenario {rules : List (Rule Command)} {state last : State}
    {statements : List (Nat × String)} {results : List LineResult}
    (h : runStatements rules state statements = some (results, last)) :
    last.scenario = state.scenario := by
  induction statements generalizing state results with
  | nil => cases h; rfl
  | cons statement more ih =>
    obtain ⟨⟨result, next⟩, hattempt, h⟩ := Option.bind_eq_some_iff.1 h
    obtain ⟨⟨later, last⟩, hmore, h⟩ := Option.bind_eq_some_iff.1 h
    cases h
    rw [ih hmore, attempt_scenario hattempt]

/-! ### Calls -/

/-- A session that has this scenario and this config, and a state of the scenario. -/
structure Settled (s : Scenario) (c : Config) (session : Session) : Prop where
  scenario : session.scenario = s
  config : session.config = c
  state : session.state.scenario = s

lemma initial_scenario (config : Config) (scenario : Scenario) :
    (State.initial config scenario).scenario = scenario := by
  cases scenario <;> rfl

lemma start_settled (scenario : Scenario) (config : Config) :
    Settled scenario config (.start scenario config) :=
  ⟨rfl, rfl, initial_scenario config scenario⟩

lemma resume_settled (scenario : Scenario) (held : Option State) (config : Config) :
    Settled scenario config (.resume scenario held config) := by
  unfold Session.resume
  split
  · split
    · next hheld => exact ⟨rfl, rfl, hheld⟩
    · exact start_settled scenario config
  · exact start_settled scenario config

lemma call_cases (session : Session) (asked : Call) :
    (∃ code, call session asked = (session.run code).map replied) ∨
    call session asked = some (⟨.restarted, session.reset.state⟩, session.reset) ∨
    ∃ answer, call session asked = some (⟨answer, session.state⟩, session) := by
  cases asked with
  | run code => exact .inl ⟨code, rfl⟩
  | reset => exact .inr (.inl rfl)
  | lesson order =>
    simp only [call, Session.runLesson]
    cases (Lesson.ofScenario session.scenario).arrange order with
    | ok code => exact .inl ⟨code, rfl⟩
    | error mismatch => exact .inr (.inr ⟨.outOfOrder mismatch, rfl⟩)

variable {scenario : Scenario} {config : Config} {session next last : Session}

lemma Settled.reset_eq (h : Settled scenario config session) :
    session.reset = .start scenario config := by
  rw [Session.reset, h.scenario, h.config]

lemma Settled.run (h : Settled scenario config session) {code : String} {results : List LineResult}
    (hrun : session.run code = some (results, next)) : Settled scenario config next := by
  obtain ⟨⟨results, last⟩, hinterpret, hnext⟩ := Option.map_eq_some_iff.1 hrun
  cases hnext
  exact ⟨h.scenario, h.config, (runStatements_scenario hinterpret).trans h.state⟩

lemma Settled.call (h : Settled scenario config session) {asked : Call} {reply : Reply}
    (hcall : call session asked = some (reply, next)) :
    Settled scenario config next ∧ reply.state = next.state := by
  obtain ⟨code, hrun⟩ | hreset | ⟨answer, hnone⟩ := call_cases session asked
  · rw [hrun] at hcall
    obtain ⟨⟨results, after⟩, hrun, hreply⟩ := Option.map_eq_some_iff.1 hcall
    cases hreply
    exact ⟨h.run hrun, rfl⟩
  · cases hreset.symm.trans hcall
    rw [h.reset_eq]
    exact ⟨start_settled scenario config, rfl⟩
  · cases hnone.symm.trans hcall
    exact ⟨h, rfl⟩

lemma Settled.calls (h : Settled scenario config session) {asked : List Call} {replies : List Reply}
    (hcalls : calls session asked = some (replies, last)) :
    Settled scenario config last ∧ ∀ reply ∈ replies, reply.state.scenario = scenario := by
  induction asked generalizing session replies with
  | nil => cases hcalls; exact ⟨h, nofun⟩
  | cons first more ih =>
    obtain ⟨⟨reply, next⟩, hcall, hcalls⟩ := Option.bind_eq_some_iff.1 hcalls
    obtain ⟨⟨later, last⟩, hmore, hcalls⟩ := Option.bind_eq_some_iff.1 hcalls
    cases hcalls
    obtain ⟨hnext, hreply⟩ := h.call hcall
    obtain ⟨hlast, hlater⟩ := ih hnext hmore
    exact ⟨hlast, List.forall_mem_cons.2 ⟨hreply ▸ hnext.state, hlater⟩⟩

lemma calls_append {before after : List Call} {early later : List Reply} {middle : Session}
    (hbefore : calls session before = some (early, middle))
    (hafter : calls middle after = some (later, last)) :
    calls session (before ++ after) = some (early ++ later, last) := by
  induction before generalizing session early with
  | nil => cases hbefore; exact hafter
  | cons first more ih =>
    obtain ⟨⟨reply, next⟩, hcall, hbefore⟩ := Option.bind_eq_some_iff.1 hbefore
    obtain ⟨⟨replies, middle⟩, hmore, hbefore⟩ := Option.bind_eq_some_iff.1 hbefore
    cases hbefore
    simp only [List.cons_append, Proofs.calls, hcall, ih hmore, Option.bind_eq_bind,
      Option.bind_some, Option.pure_def]

lemma Settled.answers (h : Settled scenario config session) (hheld : Held session.state)
    (asked : Call) :
    ∃ reply next, Proofs.call session asked = some (reply, next) ∧ Held next.state := by
  obtain ⟨code, hrun⟩ | hreset | ⟨answer, hnone⟩ := call_cases session asked
  · obtain ⟨results, after, hinterpret, hafter, -⟩ :=
      interpret_held hheld (h.state.trans h.scenario.symm) code
    rw [hrun, Session.run, hinterpret]
    exact ⟨_, _, rfl, hafter⟩
  · exact ⟨_, _, hreset, initial_held _ _⟩
  · exact ⟨_, _, hnone, hheld⟩

lemma start_answers (scenario : Scenario) (config : Config) (asked : List Call) :
    ∃ replies last, Proofs.calls (.start scenario config) asked = some (replies, last) := by
  suffices hanswers : ∀ session, Settled scenario config session → Held session.state →
      ∃ replies last, Proofs.calls session asked = some (replies, last) from
    hanswers _ (start_settled scenario config) (initial_held config scenario)
  induction asked with
  | nil => exact fun session _ _ => ⟨[], session, rfl⟩
  | cons first more ih =>
    intro session h hheld
    obtain ⟨reply, next, hcall, hnext⟩ := h.answers hheld first
    obtain ⟨replies, last, hmore⟩ := ih next (h.call hcall).1 hnext
    exact ⟨reply :: replies, last, by simp [Proofs.calls, hcall, hmore]⟩

/-- A session stays in its scenario, whether it is opened or goes on from what a host has
kept, and whatever is asked of it. The state in each reply is of the scenario. Every line that a
program comes to, in a run or in a lesson, is carried out on a state of the scenario of its
command, because no rule of the scenario builds another command. After a reset everything is as in
a session that has just been opened, and every call is answered. -/
theorem session_stays_in_scenario (scenario : Scenario) (config : Config) (session : Session)
    (hsession : session = .start scenario config ∨
      ∃ held, session = .resume scenario held config) :
    (∀ asked replies last, calls session asked = some (replies, last) →
      last.scenario = scenario ∧ last.state.scenario = scenario ∧
      (∀ reply ∈ replies, reply.state.scenario = scenario) ∧
      ∀ code before number line behind results state statement,
        Text.statements code = before ++ (number, line) :: behind →
        runStatements (rulesOf last.scenario) last.state before = some (results, state) →
        classify (rulesOf last.scenario) line = .ok statement →
          statement.command.scenario = state.scenario) ∧
    (∀ rule ∈ rulesOf scenario, ∀ line command, rule.match? line = some (.ok command) →
      command.scenario = scenario) ∧
    ∀ before early middle after, calls session before = some (early, middle) →
      ∃ later last, calls (.start scenario config) after = some (later, last) ∧
        calls session (before ++ .reset :: after) =
          some (early ++ ⟨.restarted, .initial config scenario⟩ :: later, last) := by
  have hsettled : Settled scenario config session := by
    obtain rfl | ⟨held, rfl⟩ := hsession
    · exact start_settled scenario config
    · exact resume_settled scenario held config
  refine ⟨?_, fun rule hrule line command h => rule_scenario hrule h, ?_⟩
  · intro asked replies last hcalls
    obtain ⟨hlast, hreplies⟩ := hsettled.calls hcalls
    refine ⟨hlast.scenario, hlast.state, hreplies, ?_⟩
    intro code before number line behind results state statement _ hrun hclassify
    rw [runStatements_scenario hrun, hlast.state, classify_scenario hclassify, hlast.scenario]
  · intro before early middle after hbefore
    obtain ⟨later, last, hafter⟩ := start_answers scenario config after
    refine ⟨later, last, hafter, calls_append hbefore ?_⟩
    have hreset := ((hsettled.calls hbefore).1).reset_eq
    simp only [calls, call, hreset, hafter, Option.bind_eq_bind, Option.bind_some, Option.pure_def]
    rfl

/-- A session for hashing whose host has kept a state of another scenario. -/
def foreign : Session :=
  .resume .hash (some (.programming .initial)) .standard

theorem foreign_state_put_aside :
    foreign.state.scenario = .hash ∧
    (∃ statement, classify (rulesOf .hash) "sum = 0" = .ok statement ∧
      statement.command.scenario = foreign.state.scenario) ∧
    ∃ later last, calls (.start .hash .standard) [.lesson [0]] = some (later, last) ∧
      calls foreign [.lesson [1], .reset, .lesson [0]] =
        some (⟨.outOfOrder ⟨(Lesson.blocksOf .hash).map (·.label)⟩, foreign.state⟩ ::
          ⟨.restarted, .initial .standard .hash⟩ :: later, last) := by
  obtain ⟨hcalls, -, hreset⟩ := session_stays_in_scenario .hash .standard foreign (.inr ⟨_, rfl⟩)
  obtain ⟨-, hstate, -, hlines⟩ := hcalls [] [] foreign rfl
  have hclassify : (classify (rulesOf .hash) "sum = 0").toOption.isSome = true := by decide +kernel
  refine ⟨hstate, ?_, hreset [.lesson [1]] _ foreign [.lesson [0]] rfl⟩
  cases hsaid : classify (rulesOf .hash) "sum = 0" with
  | error e => rw [hsaid] at hclassify; cases hclassify
  | ok statement =>
    exact ⟨statement, rfl, hlines "sum = 0" [] 1 "sum = 0" [] [] foreign.state statement
      (by decide +kernel) rfl hsaid⟩

end Microworlds.Proofs

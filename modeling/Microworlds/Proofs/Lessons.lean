import Microworlds.Request
import Microworlds.Proofs.AiChat.Conversation
import Microworlds.Proofs.Calls
import Microworlds.Proofs.Codec.States
import Microworlds.Proofs.Json.Writing
import Microworlds.Proofs.Lines
import Microworlds.Proofs.Statement.Rendering

/-!
# Lessons

Blocks in their order are the program of the lesson, one statement each, and a lesson never breaks down
whatever state the session is in. Blocks in any other order are not carried out at all. So a request
with an order is a request with the text of the lesson, or it has only an error for an answer.
-/

namespace Microworlds.Proofs

open Text

/-! ### Orders -/

/-- Whether each of `n` positions stands in its own place. -/
def InPlace (n : Nat) (order : List Nat) : Prop :=
  order.length = n ∧ ∀ place position : Nat, order[place]? = some position → position = place

lemma inPlace_iff {n : Nat} {order : List Nat} : InPlace n order ↔ order = List.range n := by
  constructor
  · rintro ⟨rfl, hplaces⟩
    apply List.ext_getElem
    · rw [List.length_range]
    · intro place hplace _
      rw [List.getElem_range]
      exact hplaces place _ (List.getElem?_eq_getElem hplace)
  · rintro rfl
    refine ⟨List.length_range, ?_⟩
    intro place position hposition
    obtain ⟨hplace, hvalue⟩ := List.getElem?_eq_some_iff.mp hposition
    rw [← hvalue, List.getElem_range]

/-- The blocks of the lesson are not in order. -/
def mismatchOf (lesson : Lesson) : OrderMismatch := ⟨lesson.blocks.map (·.label)⟩

variable {session : Session} {order : List Nat}

lemma runLesson_inPlace (h : InPlace (Lesson.ofScenario session.scenario).blocks.length order) :
    session.runLesson order = .ok (session.run (Lesson.ofScenario session.scenario).code) := by
  unfold Session.runLesson Lesson.arrange
  rw [if_pos (inPlace_iff.mp h)]
  rfl

lemma runLesson_outOfPlace
    (h : ¬ InPlace (Lesson.ofScenario session.scenario).blocks.length order) :
    session.runLesson order = .error (mismatchOf (Lesson.ofScenario session.scenario)) := by
  rw [inPlace_iff] at h
  unfold Session.runLesson Lesson.arrange
  rw [if_neg h]
  rfl

lemma calls_outOfPlace (h : ¬ InPlace (Lesson.ofScenario session.scenario).blocks.length order)
    (more : List Call) :
    calls session (.lesson order :: more) = (calls session more).map fun done =>
      (⟨.outOfOrder (mismatchOf (Lesson.ofScenario session.scenario)), session.state⟩ :: done.1,
        done.2) := by
  simp only [calls, call, runLesson_outOfPlace h, Option.bind_eq_bind, Option.bind_some]
  cases calls session more <;> rfl

/-! ### The program of a lesson -/

/-- The code of each block with its number, counted from 1. -/
def numberedCode (lesson : Lesson) : List (Nat × String) :=
  (lesson.blocks.zipIdx 1).map fun (block, number) => (number, block.code)

/-- One line that says something and has no white space at its ends. -/
def OneStatement (line : List Char) : Prop :=
  '\n' ∉ line ∧ trim line = line ∧ Says line

instance (line : List Char) : Decidable (OneStatement line) :=
  inferInstanceAs (Decidable (_ ∧ _ ∧ _))

lemma oneStatement_block (scenario : Scenario) :
    ∀ block ∈ Lesson.blocksOf scenario, OneStatement block.code.toList := by
  cases scenario <;> decide +kernel

lemma numbered_blocks (first : Nat) {blocks : List Block}
    (h : ∀ block ∈ blocks, OneStatement block.code.toList) :
    numbered first (blocks.map (·.code.toList)) =
      (blocks.zipIdx first).map fun (block, number) => (number, block.code) := by
  induction blocks generalizing first with
  | nil => rfl
  | cons block more ih =>
    obtain ⟨⟨-, htrim, hsaid⟩, hmore⟩ := List.forall_mem_cons.mp h
    have hstatement : statement? block.code.toList = some block.code := by
      apply statement?_eq_some_iff.mpr
      rw [htrim]
      exact ⟨hsaid, rfl⟩
    rw [List.map_cons, numbered, hstatement, List.zipIdx_cons, List.map_cons]
    dsimp only
    rw [ih (first + 1) hmore]

lemma statements_code (scenario : Scenario) :
    statements (Lesson.ofScenario scenario).code = numberedCode (Lesson.ofScenario scenario) := by
  have hblocks := oneStatement_block scenario
  have hne : Lesson.blocksOf scenario ≠ [] := by cases scenario <;> exact List.cons_ne_nil _ _
  have hcode : (Lesson.ofScenario scenario).code.toList =
      ['\n'].intercalate ((Lesson.blocksOf scenario).map (·.code.toList)) := by
    unfold Lesson.code
    rw [String.toList_intercalate, List.map_map]
    rfl
  unfold statements
  rw [hcode, pieces_intercalate]
  · exact numbered_blocks 1 hblocks
  · simpa using hne
  · intro line hline
    obtain ⟨block, hblock, rfl⟩ := List.mem_map.mp hline
    exact (hblocks block hblock).1

lemma perform_ends {command : Command} (h : command ≠ .aiChat .analyze) :
    Keeps (fun _ => True) (· ≠ .overflow) command.perform := by
  refine perform_keeps_of_chat (fun _ _ => trivial) ?_
  rintro asked rfl
  apply others_end
  rintro rfl
  exact h rfl

lemma execute_ends {rules : List (Rule Command)} {line : String}
    (h : ∀ statement, classify rules line = .ok statement → statement.command ≠ .aiChat .analyze) :
    Keeps (fun _ => True) (· ≠ .overflow) (execute rules line) :=
  keeps_check (fun statement hstatement => perform_ends (h statement hstatement)) fun _ => nofun

lemma ask_reckonable {prompt : String} (hprompt : trim prompt.toList ≠ []) (state : AiChat.State) :
    ∃ effect after, AiChat.perform (.ask prompt) state = .ok effect after ∧ MarksFit after := by
  obtain ⟨total, htotal⟩ := assess_fits prompt
  have hsaid : (trim prompt.toList).isEmpty = false := by simpa using hprompt
  have hasked : ∃ effect after, AiChat.ask prompt state = .ok effect after := by
    unfold AiChat.ask
    rw [run_stopIf, hsaid, run_liftM, htotal]
    exact ⟨_, _, rfl⟩
  obtain ⟨effect, after, hrun⟩ := hasked
  refine ⟨effect, after, hrun, ?_⟩
  cases ask_change hrun with
  | ask =>
    intro quality hquality
    cases hquality
    exact ⟨total, htotal⟩

lemma attempt_ask {rules : List (Rule Command)} {line rule family source prompt : String}
    (hclassify : classify rules line = .ok ⟨.aiChat (.ask prompt), rule, family, source⟩)
    (hprompt : trim prompt.toList ≠ []) (state : State) (number : Nat) :
    ∃ result next, attempt rules state number line = some (result, next) ∧ Reckonable next := by
  have hexecute : execute rules line state = (Command.aiChat (.ask prompt)).perform state := by
    unfold execute
    rw [hclassify]
    rfl
  by_cases hchat : state.scenario = .aiChat
  · cases state with
    | aiChat chat =>
      obtain ⟨effect, after, hasked, hmarks⟩ := ask_reckonable hprompt chat
      have hdone : execute rules line (.aiChat chat) = .ok effect (.aiChat after) := by
        rw [hexecute]
        unfold Command.perform Handler.within
        simp only [hasked]
      unfold attempt
      rw [hdone]
      exact ⟨_, _, rfl, hmarks⟩
    | _ => cases hchat
  · have hother : (Command.aiChat (.ask prompt)).scenario ≠ state.scenario := fun hsame =>
      hchat hsame.symm
    unfold attempt
    rw [hexecute, perform_mismatch hother]
    exact ⟨_, _, rfl, reckonable_of_other hchat⟩

lemma classify_chat (command : AiChat.Command) {line : String} (hline : aiChatText command = line) :
    ∃ rule family, classify (rulesOf .aiChat) line = .ok ⟨.aiChat command, rule, family, line⟩ := by
  subst hline
  exact classify_of_understood (understood_canonicalText (.aiChat command) trivial)

/-- What asks the chat before it can break down comes to its end, if the line before that does. -/
lemma runStatements_asking {rules : List (Rule Command)}
    {first second rule family source prompt : String}
    (hfirst : ∀ statement, classify rules first = .ok statement →
      statement.command ≠ .aiChat .analyze)
    (hsecond : classify rules second = .ok ⟨.aiChat (.ask prompt), rule, family, source⟩)
    (hprompt : trim prompt.toList ≠ []) (state : State) (m n : Nat) (more : List (Nat × String)) :
    ∃ results last,
      runStatements rules state ((m, first) :: (n, second) :: more) = some (results, last) := by
  have hbegin : ∃ result next, attempt rules state m first = some (result, next) ∧ True :=
    attempt_kept (execute_ends hfirst) trivial m
  obtain ⟨begun, between, hbegun, -⟩ := hbegin
  obtain ⟨answered, asked, hanswered, hreckonable⟩ := attempt_ask hsecond hprompt between n
  obtain ⟨others, last, hothers, -⟩ := runStatements_reckonable rules hreckonable more
  refine ⟨begun :: answered :: others, last, ?_⟩
  simp only [runStatements, hbegun, hanswered, hothers, Option.bind_eq_bind, Option.bind_some,
    Option.pure_def]

lemma chatLesson_begins : ∃ more, numberedCode (Lesson.ofScenario .aiChat) =
    (1, "set thinking mode \"brainstorm\"") :: (2, "ask \"how do I learn programming\"") :: more :=
  ⟨_, rfl⟩

lemma chatLesson_ends (state : State) :
    ∃ results last, interpret .aiChat state (Lesson.ofScenario .aiChat).code = some (results, last) := by
  have hmode : aiChatText (.setMode "brainstorm") = "set thinking mode \"brainstorm\"" := by
    decide +kernel
  have hask : aiChatText (.ask "how do I learn programming") =
      "ask \"how do I learn programming\"" := by
    decide +kernel
  obtain ⟨_, _, hbegins⟩ := classify_chat _ hmode
  obtain ⟨_, _, hasks⟩ := classify_chat _ hask
  obtain ⟨more, hlines⟩ := chatLesson_begins
  unfold interpret
  rw [statements_code, hlines]
  refine runStatements_asking ?_ hasks (by decide +kernel) state 1 2 more
  intro statement hstatement
  rw [hbegins] at hstatement
  cases hstatement
  exact nofun

lemma lesson_ends (scenario : Scenario) (state : State) :
    ∃ results last,
      interpret scenario state (Lesson.ofScenario scenario).code = some (results, last) := by
  by_cases hchat : scenario = .aiChat
  · subst hchat
    exact chatLesson_ends state
  · have hlines : ∀ line, Keeps (fun _ => True) (· ≠ .overflow) (execute (rulesOf scenario) line) := by
      intro line
      refine execute_ends ?_
      intro statement hstatement hanalyze
      apply hchat
      rw [← classify_scenario hstatement, hanalyze]
      rfl
    have hends : ∃ results last, runStatements (rulesOf scenario) state
        (statements (Lesson.ofScenario scenario).code) = some (results, last) ∧ True :=
      runStatements_kept hlines trivial _
    obtain ⟨results, last, hrun, -⟩ := hends
    exact ⟨results, last, hrun⟩

lemma run_lesson (session : Session) :
    ∃ results last, session.run (Lesson.ofScenario session.scenario).code = some (results, last) ∧
      results.map (fun result => (result.lineNumber, result.sourceLine)) =
        numberedCode (Lesson.ofScenario session.scenario) := by
  obtain ⟨results, last, hrun⟩ := lesson_ends session.scenario session.state
  refine ⟨results, { session with state := last }, ?_, ?_⟩
  · rw [Session.run, hrun, Option.map_some]
  · unfold interpret at hrun
    rw [← statements_code]
    exact runStatements_lines hrun

/-! ### Requests -/

/-- Whether a text is read as a request. -/
def Asks (text : String) (request : Request) : Prop :=
  (Json.read? text).bind decode? = some request

/-- The same request with the program of the lesson in place of an order. -/
def spelledOut (request : Request) : Request :=
  { request with order := none, code := (Lesson.named request.scenario).code }

variable {text : String} {request : Request}

lemma session_spelledOut (request : Request) : (spelledOut request).session = request.session := rfl

lemma code_spelledOut (request : Request) :
    (spelledOut request).code = (Lesson.named request.scenario).code := by
  simp only [spelledOut]

lemma answerText_of_asks (h : Asks text request) : Request.answerText text = request.answer := by
  unfold Request.answerText Request.answerValue
  rw [h]

lemma lesson_of_request (request : Request) :
    Lesson.ofScenario request.session.scenario = Lesson.named request.scenario := by
  have hsettled := resume_settled (.resolve request.scenario) request.state
    (request.config.getD .standard)
  have hscenario : request.session.scenario = .resolve request.scenario := hsettled.scenario
  rw [hscenario]
  rfl

/-- The response to a run that came to its end. -/
def responseOf (outcome : List LineResult × Session) : Response :=
  ⟨outcome.2.scenario, outcome.1, outcome.2.state⟩

lemma answer_code (horder : request.order = none) :
    request.answer = (request.session.run request.code).map (.ok ∘ responseOf) := by
  unfold Request.answer
  simp only [horder]
  cases request.session.run request.code <;> rfl

lemma answer_order {outcome : Option (List LineResult × Session)}
    (horder : request.order = some order) (hrun : request.session.runLesson order = .ok outcome) :
    request.answer = outcome.map (.ok ∘ responseOf) := by
  unfold Request.answer
  simp only [horder, hrun]
  cases outcome <;> rfl

lemma answer_inPlace (horder : request.order = some order)
    (h : InPlace (Lesson.named request.scenario).blocks.length order) :
    request.answer = (spelledOut request).answer := by
  rw [← lesson_of_request] at h
  rw [answer_order horder (runLesson_inPlace h), answer_code rfl, session_spelledOut, code_spelledOut,
    lesson_of_request]

lemma answer_outOfPlace (horder : request.order = some order)
    (h : ¬ InPlace (Lesson.named request.scenario).blocks.length order) :
    request.answer = some (.error (.outOfOrder (mismatchOf (Lesson.named request.scenario)))) := by
  rw [← lesson_of_request] at h
  unfold Request.answer
  simp only [horder, runLesson_outOfPlace h, lesson_of_request]
  rfl

lemma report_mismatch (lesson : Lesson) :
    Request.report (.error (.outOfOrder (mismatchOf lesson))) = .obj [("error",
      .str ("blocks are out of order, expected: " ++
        " → ".intercalate (lesson.blocks.map (·.label))))] := rfl

lemma answer_spelledOut (request : Request) :
    ∃ response, (spelledOut request).answer = some (.ok response) ∧
      response.results.length = (Lesson.named request.scenario).blocks.length := by
  obtain ⟨results, last, hrun, hlines⟩ := run_lesson request.session
  rw [lesson_of_request] at hrun hlines
  refine ⟨responseOf (results, last), ?_, ?_⟩
  · rw [answer_code rfl, session_spelledOut, code_spelledOut, hrun]
    rfl
  · have hlength := congrArg List.length hlines
    unfold numberedCode at hlength
    simpa [responseOf] using hlength

lemma asks_compact {scenario code : String} {order : Option (List Nat)}
    (h : ∀ positions, order = some positions → ∀ position ∈ positions, position ≤ Word.greatest64) :
    Asks (encode (⟨scenario, code, none, order, none⟩ : Request)).compact
      ⟨scenario, code, none, order, none⟩ := by
  have hexact : Exact 2 (encode (⟨scenario, code, none, order, none⟩ : Request)) := by
    refine .obj _ ?_
    refine List.forall_mem_cons.mpr ⟨.str _, List.forall_mem_cons.mpr ⟨.str _, ?_⟩⟩
    refine List.forall_mem_cons.mpr ⟨.null, List.forall_mem_cons.mpr ⟨?_, ?_⟩⟩
    · cases order with
      | none => exact .null
      | some positions =>
        exact .arr _ (List.forall_mem_map.mpr fun position hposition =>
          exact_nat (h positions rfl position hposition))
    · exact List.forall_mem_singleton.mpr .null
  have hlevels : (encode (⟨scenario, code, none, order, none⟩ : Request)).levels ≤ Json.maxLevels :=
    hexact.fits.levels_le.trans (by decide)
  have hread := read?_text (compact_text hexact) hlevels space_nil space_nil
  rw [List.nil_append, List.append_nil, String.ofList_toList] at hread
  rw [Asks, hread]
  exact decode_encode _

/-- An order of blocks is the lesson, or nothing. On every session an order that has each block in
its own place gives what the program of the lesson gives, with one result for each block. Every other
order is refused, and the session goes on as if it had not been given. A request with an order is
answered in the first case as the one that has the program of the lesson in place of the order and of
its own program, and with nothing but an error that names the labels in the second. -/
theorem order_is_lesson_or_nothing :
    (∀ session order, let lesson := Lesson.ofScenario session.scenario
      (InPlace lesson.blocks.length order →
        ∃ results last, session.runLesson order = .ok (some (results, last)) ∧
          session.run ("\n".intercalate (lesson.blocks.map (·.code))) = some (results, last) ∧
          results.map (fun result => (result.lineNumber, result.sourceLine)) = numberedCode lesson) ∧
      (¬ InPlace lesson.blocks.length order →
        session.runLesson order = .error ⟨lesson.blocks.map (·.label)⟩ ∧
          ∀ more, calls session (.lesson order :: more) = (calls session more).map fun done =>
            (⟨.outOfOrder ⟨lesson.blocks.map (·.label)⟩, session.state⟩ :: done.1, done.2))) ∧
      ∀ text request order, Asks text request → request.order = some order →
        let lesson := Lesson.named request.scenario
        (InPlace lesson.blocks.length order →
          ∃ response, Request.answerText text = some (.ok response) ∧
            response.results.length = lesson.blocks.length ∧
            ∀ other, Asks other (spelledOut request) →
              Request.answerText other = some (.ok response)) ∧
        (¬ InPlace lesson.blocks.length order →
          (Request.answerText text).map Request.report = some (.obj [("error",
            .str ("blocks are out of order, expected: " ++
              " → ".intercalate (lesson.blocks.map (·.label))))])) := by
  refine ⟨fun session order => ⟨fun hplace => ?_, fun hplace => ?_⟩, ?_⟩
  · obtain ⟨results, last, hrun, hlines⟩ := run_lesson session
    refine ⟨results, last, ?_, hrun, hlines⟩
    rw [runLesson_inPlace hplace, hrun]
  · exact ⟨runLesson_outOfPlace hplace, calls_outOfPlace hplace⟩
  · intro text request order hasks horder
    refine ⟨fun hplace => ?_, fun hplace => ?_⟩
    · obtain ⟨response, hanswer, hresults⟩ := answer_spelledOut request
      refine ⟨response, ?_, hresults, fun other hother => ?_⟩
      · rw [answerText_of_asks hasks, answer_inPlace horder hplace, hanswer]
      · rw [answerText_of_asks hother, hanswer]
    · rw [answerText_of_asks hasks, answer_outOfPlace horder hplace, Option.map_some, report_mismatch]

/-- The program of the lesson with the coin. -/
def coinProgram : String :=
  "create player at (0, 0)\nmove player right\nmove player right\nmove player down"

/-- A request for the blocks of the lesson with the coin, with a program beside them. -/
def coinRequest (order : List Nat) : Request :=
  ⟨"game", "move player up", none, some order, none⟩

/-- The blocks in their order are answered as the program that they spell. The second and the third block
have the same code, and still they may not be exchanged. -/
theorem coin_order_answered :
    (∃ response, Request.answerText (encode (coinRequest [0, 1, 2, 3])).compact = some (.ok response) ∧
      response.results.length = 4 ∧
      Request.answerText (encode (⟨"game", coinProgram, none, none, none⟩ : Request)).compact =
        some (.ok response)) ∧
    (Request.answerText (encode (coinRequest [0, 2, 1, 3])).compact).map Request.report =
      some (.obj [("error", .str ("blocks are out of order, expected: " ++
        "create the player → step right → step right again → step down onto the coin"))]) := by
  have hblocks : (Lesson.named "game").blocks.length = 4 := by decide +kernel
  have hright : Asks (encode (coinRequest [0, 1, 2, 3])).compact (coinRequest [0, 1, 2, 3]) :=
    asks_compact fun positions hpositions => by
      rw [← Option.some.inj hpositions]
      decide
  have hwrong : Asks (encode (coinRequest [0, 2, 1, 3])).compact (coinRequest [0, 2, 1, 3]) :=
    asks_compact fun positions hpositions => by
      rw [← Option.some.inj hpositions]
      decide
  have hspelledOut : spelledOut (coinRequest [0, 1, 2, 3]) = ⟨"game", coinProgram, none, none, none⟩ := by
    have hcode : (Lesson.named "game").code = coinProgram := by decide +kernel
    change (⟨"game", (Lesson.named "game").code, none, none, none⟩ : Request) = _
    rw [hcode]
  have hprogram : Asks (encode (⟨"game", coinProgram, none, none, none⟩ : Request)).compact
      ⟨"game", coinProgram, none, none, none⟩ := asks_compact nofun
  rw [← hspelledOut] at hprogram ⊢
  constructor
  · obtain ⟨response, hanswer, hresults, hspelled⟩ :=
      (order_is_lesson_or_nothing.2 _ _ _ hright rfl).1 (inPlace_iff.mpr (by decide +kernel))
    exact ⟨response, hanswer, hresults.trans hblocks, hspelled _ hprogram⟩
  · have hplaces : ¬ InPlace (Lesson.named (coinRequest [0, 2, 1, 3]).scenario).blocks.length
        [0, 2, 1, 3] := by
      rw [inPlace_iff]
      decide +kernel
    have hlabels : " → ".intercalate
        ((Lesson.named (coinRequest [0, 2, 1, 3]).scenario).blocks.map (·.label)) =
        "create the player → step right → step right again → step down onto the coin" := by
      decide +kernel
    rw [(order_is_lesson_or_nothing.2 _ _ _ hwrong rfl).2 hplaces, hlabels]

end Microworlds.Proofs

import Microworlds.Proofs.Reached
import Microworlds.Proofs.Statement.Rendering
import Microworlds.Proofs.Host.Transport

/-!
# Sessions that a host keeps

A host sends one request for each program and sends the state of each answer back with the next one.
The answers are those of one session that carries out the same programs, as long as every state that
is sent back arrives as it was. A box with a number that is not finite does not, and neither does a tree
of more than 125 levels: the host gets an error for the next request.
-/

namespace Microworlds.Proofs

/-- Whether a state that a session comes to arrives as it was sent. -/
def Travels : State → Prop
  | .physics state => PhysicsNumbers IsFinite state
  | .dataStructure state => height state.tree ≤ 125
  | _ => True

def Sendable (config : Option Config) : Prop :=
  ∀ settings, config = some settings → IsFinite settings.replaySpeed

def requestOf (id : String) (config : Option Config) (state : Option State) (code : String) : Request :=
  ⟨id, code, state, none, config⟩

/-- The answers to one request after the other, each with the state of the answer before. After an
error there is no state to go on with. -/
def hosted (t : Transport) (id : String) (config : Option Config) :
    Option State → List String → Option (List (Except RequestError Response))
  | _, [] => some []
  | state, code :: more => do
    match ← t.call (requestOf id config state code) with
    | .ok response => return .ok response :: (← hosted t id config (some response.state) more)
    | .error e => return [.error e]

/-- The runs of a session that carries out programs one after the other. -/
def runs (session : Session) : List String → Option (List Run)
  | [] => some []
  | code :: more => do
    let (results, next) ← session.run code
    return (results, next.state) :: (← runs next more)

def answerOf (scenario : Scenario) (run : Run) : Except RequestError Response :=
  .ok ⟨scenario, run.1, run.2⟩

variable {t : Transport} {id : String} {scenario : Scenario} {config : Option Config}

lemma numbers_of_travels {state : State} (hheld : Held state) (h : Travels state) :
    Numbers IsFinite state ∧ treeHeight state ≤ 125 := by
  cases state with
  | math => exact ⟨hheld, Nat.zero_le _⟩
  | physics => exact ⟨h, Nat.zero_le _⟩
  | dataStructure => exact ⟨trivial, h⟩
  | _ => exact ⟨trivial, Nat.zero_le _⟩

lemma call_of_travels {state : Option State}
    (hstate : ∀ s, state = some s → Held s ∧ Travels s) (hconfig : Sendable config) (code : String) :
    t.call (requestOf id config state code) = (requestOf id config state code).answer := by
  refine call_of_fits t (fits_request (n := 121) (fun s hs => ?_) hconfig)
  exact numbers_of_travels (hstate s hs).1 (hstate s hs).2

lemma call_of_not_travels {state : State} (h : ¬ Travels state) (code : String) :
    t.call (requestOf id config (some state) code) = some (.error .malformed) := by
  cases state with
  | physics => exact call_of_not_finite t rfl h
  | dataStructure => exact call_of_height t rfl (Nat.lt_of_not_le h)
  | _ => exact absurd trivial h

lemma call_of_not_sendable (hconfig : ¬ Sendable config) (state : Option State) (code : String) :
    t.call (requestOf id config state code) = some (.error .malformed) := by
  cases config with
  | none => exact absurd nofun hconfig
  | some settings =>
    refine call_of_not_finite_speed t rfl fun hfinite => hconfig ?_
    rintro _ ⟨⟩
    exact hfinite

/-- The session of a host in a state of its scenario. -/
def sessionIn (scenario : Scenario) (config : Option Config) (state : State) : Session :=
  ⟨scenario, config.getD .standard, state⟩

lemma run_of_interpret {session : Session} {code : String} {results : List LineResult} {last : State}
    (h : interpret session.scenario session.state code = some (results, last)) :
    session.run code = some (results, { session with state := last }) := by
  rw [Session.run, h, Option.map_some]

lemma answer_of_run {request : Request} {next : Session} {results : List LineResult}
    (horder : request.order = none) (h : request.session.run request.code = some (results, next)) :
    request.answer = some (.ok ⟨next.scenario, results, next.state⟩) := by
  unfold Request.answer
  simp only [horder, h]

lemma answer_of_held {request : Request} {s : State} (horder : request.order = none)
    (hsession : request.session = sessionIn scenario config s) (hheld : Held s)
    (hscenario : s.scenario = scenario) :
    ∃ run : Run, (sessionIn scenario config s).run request.code =
        some (run.1, sessionIn scenario config run.2) ∧
      request.answer = some (answerOf scenario run) ∧ Held run.2 ∧ run.2.scenario = scenario := by
  obtain ⟨results, last, hrun, hlast⟩ := interpret_held hheld hscenario request.code
  have hdone : (sessionIn scenario config s).run request.code =
      some (results, sessionIn scenario config last) := run_of_interpret hrun
  have hrequest : request.session.run request.code =
      some (results, sessionIn scenario config last) := by rw [hsession, hdone]
  exact ⟨(results, last), hdone, answer_of_run horder hrequest, hlast⟩

lemma runs_cons {session next : Session} {code : String} {more : List String}
    {results : List LineResult} {done : List Run} (hrun : session.run code = some (results, next))
    (hmore : runs next more = some done) :
    runs session (code :: more) = some ((results, next.state) :: done) := by
  rw [runs, hrun]
  change (do let later ← runs next more; return (results, next.state) :: later) = _
  rw [hmore]
  rfl

lemma hosted_cons_ok {state : Option State} {code : String} {more : List String} {response : Response}
    {answers : List (Except RequestError Response)}
    (hcall : t.call (requestOf id config state code) = some (.ok response))
    (hmore : hosted t id config (some response.state) more = some answers) :
    hosted t id config state (code :: more) = some (.ok response :: answers) := by
  rw [hosted, hcall]
  change (do
    let later ← hosted t id config (some response.state) more
    return Except.ok response :: later) = _
  rw [hmore]
  rfl

lemma hosted_cons_error {state : Option State} {code : String} (more : List String) {e : RequestError}
    (hcall : t.call (requestOf id config state code) = some (.error e)) :
    hosted t id config state (code :: more) = some [.error e] := by
  rw [hosted, hcall]
  rfl

/-- Whether the settings and the state of a request arrive as they were sent. -/
def Arrives (config : Option Config) (state : Option State) : Prop :=
  Sendable config ∧ ∀ sent, state = some sent → Travels sent

lemma call_of_not_arrives {state : Option State} (h : ¬ Arrives config state) (code : String) :
    t.call (requestOf id config state code) = some (.error .malformed) := by
  by_cases hconfig : Sendable config
  · cases state with
    | none => exact absurd ⟨hconfig, nofun⟩ h
    | some sent =>
      refine call_of_not_travels (fun hsent => h ⟨hconfig, ?_⟩) code
      rintro _ ⟨⟩
      exact hsent
  · exact call_of_not_sendable hconfig state code

lemma travels_cons {run : Run} {done : List Run} {more : List String}
    (hlength : done.length = more.length) (hconfig : Sendable config) :
    ((more ≠ [] → Arrives config (some run.2)) ∧ ∀ later ∈ done.dropLast, Travels later.2) ↔
      ∀ later ∈ (run :: done).dropLast, Travels later.2 := by
  cases more with
  | nil =>
    cases List.length_eq_zero_iff.mp hlength
    simp
  | cons code more =>
    cases done with
    | nil => cases hlength
    | cons next done => simp [Arrives, hconfig]

lemma hosted_from (hid : Scenario.resolve id = scenario) {state : Option State} {s : State}
    (hsession : ∀ code, (requestOf id config state code).session = sessionIn scenario config s)
    (hstate : ∀ sent, state = some sent → sent = s) (hheld : Held s)
    (hscenario : s.scenario = scenario) (texts : List String) :
    ∃ done answers, runs (sessionIn scenario config s) texts = some done ∧
      done.length = texts.length ∧ hosted t id config state texts = some answers ∧
      (answers = done.map (answerOf scenario) ↔
        (texts ≠ [] → Arrives config state) ∧ ∀ run ∈ done.dropLast, Travels run.2) := by
  induction texts generalizing state s with
  | nil => exact ⟨[], [], rfl, rfl, rfl, by simp⟩
  | cons code more ih =>
    obtain ⟨run, hrun, hanswer, hheld', hscenario'⟩ :=
      answer_of_held rfl (hsession code) hheld hscenario
    have hnext : ∀ code, (requestOf id config (some run.2) code).session =
        sessionIn scenario config run.2 := by
      intro code
      rw [← hid] at hscenario' ⊢
      exact if_pos hscenario'
    obtain ⟨done, answers, hdone, hlength, hanswers, hiff⟩ :=
      ih hnext (fun sent h => (Option.some.inj h).symm) hheld' hscenario'
    have hruns : runs (sessionIn scenario config s) (code :: more) = some (run :: done) :=
      runs_cons hrun hdone
    by_cases hsent : Arrives config state
    · have hcall : t.call (requestOf id config state code) = some (answerOf scenario run) := by
        rw [← hanswer]
        refine call_of_travels (fun sent h => ⟨?_, hsent.2 sent h⟩) hsent.1 code
        rwa [hstate sent h]
      refine ⟨run :: done, _, hruns, congrArg (· + 1) hlength, hosted_cons_ok hcall hanswers, ?_⟩
      rw [List.map_cons, ← travels_cons hlength hsent.1, ← hiff]
      simp [answerOf, hsent]
    · have hcall : t.call (requestOf id config state code) = some (.error .malformed) :=
        call_of_not_arrives hsent code
      refine ⟨run :: done, _, hruns, congrArg (· + 1) hlength, hosted_cons_error more hcall, ?_⟩
      simp [answerOf, hsent]

/-- The answers of a host that keeps the state are those of one session if and only if the settings
and every state that is sent back arrive as they were sent. -/
theorem hosted_eq_session_iff (t : Transport) (id : String) (config : Option Config)
    (texts : List String) :
    ∃ done answers, runs (.start (.resolve id) (config.getD .standard)) texts = some done ∧
      done.length = texts.length ∧ hosted t id config none texts = some answers ∧
      (answers = done.map (answerOf (.resolve id)) ↔
        (texts ≠ [] → Sendable config) ∧ ∀ run ∈ done.dropLast, Travels run.2) := by
  obtain ⟨scenario, hid⟩ : ∃ scenario, Scenario.resolve id = scenario := ⟨_, rfl⟩
  have hscenario : (State.initial (config.getD .standard) scenario).scenario = scenario := by
    cases scenario <;> rfl
  have hfirst : ∀ code, (requestOf id config none code).session =
      sessionIn scenario config (.initial (config.getD .standard) scenario) := by
    intro code
    rw [← hid]
    rfl
  obtain ⟨done, answers, hdone, hlength, hanswers, hiff⟩ :=
    hosted_from (t := t) hid hfirst nofun (initial_held _ _) hscenario texts
  rw [hid]
  refine ⟨done, answers, hdone, hlength, hanswers, ?_⟩
  simpa [Arrives] using hiff

/-! ### A tree that grows -/

/-- A tree with one node on each level, to the right of the one above. -/
def chain : Nat → DataStructure.Tree
  | 0 => .empty
  | n + 1 => .node 0 .empty (chain n)

lemma height_chain (n : Nat) : height (chain n) = n := by
  induction n with
  | zero => rfl
  | succ n ih =>
    rw [chain, height, ih]
    exact congrArg (· + 1) (Nat.zero_max n)

lemma insert_chain (n : Nat) : (chain n).insert 0 = chain (n + 1) := by
  induction n with
  | zero => rfl
  | succ n ih =>
    rw [chain, DataStructure.Tree.insert, if_neg (by decide), ih]
    rfl

/-- A session with nothing but such a tree. -/
def chained (n : Nat) : Session :=
  ⟨.dataStructure, .standard, .dataStructure { DataStructure.State.initial with tree := chain n }⟩

lemma run_chained (n : Nat) :
    ∃ results, (chained n).run "tree.insert(0)" = some (results, chained (n + 1)) := by
  have hstatements : Text.statements "tree.insert(0)" = [(1, "tree.insert(0)")] := by
    decide +kernel
  obtain ⟨rule, family, hclassify⟩ : ∃ rule family,
      classify (rulesOf .dataStructure) "tree.insert(0)" =
        .ok ⟨.dataStructure (.treeInsert 0), rule, family, "tree.insert(0)"⟩ := by
    have hunderstood := understood_canonicalText (.dataStructure (.treeInsert 0)) trivial
    have htext : canonicalText (.dataStructure (.treeInsert 0)) = "tree.insert(0)" := by
      decide +kernel
    rw [htext] at hunderstood
    exact classify_of_understood hunderstood
  obtain ⟨effect, hexecute⟩ : ∃ effect, execute (rulesOf .dataStructure) "tree.insert(0)"
      (chained n).state = .ok effect (chained (n + 1)).state := by
    have hnext : (chained (n + 1)).state = .dataStructure
        { DataStructure.State.initial with tree := (chain n).insert 0 } := by
      rw [insert_chain]
      rfl
    unfold execute
    rw [hclassify, hnext]
    exact ⟨_, rfl⟩
  have hattempt : attempt (rulesOf .dataStructure) (chained n).state 1 "tree.insert(0)" =
      some (⟨1, "tree.insert(0)", .success effect⟩, (chained (n + 1)).state) := by
    rw [attempt, hexecute]
  refine ⟨[⟨1, "tree.insert(0)", .success effect⟩], run_of_interpret ?_⟩
  change runStatements (rulesOf .dataStructure) (chained n).state
    (Text.statements "tree.insert(0)") = _
  rw [hstatements, runStatements, hattempt]
  rfl

lemma runs_chained (count n : Nat) :
    ∃ done, runs (chained n) (List.replicate count "tree.insert(0)") = some done ∧
      ∀ k, k < count → (done[k]?).map (·.2) = some (chained (n + k + 1)).state := by
  induction count generalizing n with
  | zero => exact ⟨[], rfl, fun k hk => absurd hk (Nat.not_lt_zero k)⟩
  | succ count ih =>
    obtain ⟨results, hrun⟩ := run_chained n
    obtain ⟨done, hdone, hstates⟩ := ih (n + 1)
    refine ⟨_, runs_cons hrun hdone, fun k hk => ?_⟩
    cases k with
    | zero => rfl
    | succ k =>
      rw [List.getElem?_cons_succ, hstates k (Nat.lt_of_succ_lt_succ hk)]
      rw [Nat.add_right_comm n 1 k]
      rfl

/-- A tree that gets one level with each program is too high for the 127th request. -/
theorem repeated_insert_breaks_off :
    ∃ done answers, runs (.start .dataStructure .standard) (List.replicate 127 "tree.insert(0)") =
        some done ∧
      hosted .plain "datastructure" none none (List.replicate 127 "tree.insert(0)") = some answers ∧
      answers ≠ done.map (answerOf .dataStructure) := by
  have hid : Scenario.resolve "datastructure" = .dataStructure := by decide +kernel
  obtain ⟨done, answers, hdone, hlength, hanswers, hiff⟩ :=
    hosted_eq_session_iff .plain "datastructure" none (List.replicate 127 "tree.insert(0)")
  rw [hid] at hdone hiff
  refine ⟨done, answers, hdone, hanswers, fun hsame => ?_⟩
  obtain ⟨found, hfound, hstates⟩ := runs_chained 127 0
  cases hdone.symm.trans hfound
  obtain ⟨run, hrun, hstate⟩ := Option.map_eq_some_iff.mp (hstates 125 (by decide))
  have hmem : run ∈ done.dropLast := by
    apply List.mem_of_getElem? (i := 125)
    rw [List.getElem?_dropLast, hlength, List.length_replicate, if_pos (by decide), hrun]
  have htravels := (hiff.mp hsame).2 run hmem
  rw [hstate] at htravels
  change height (chain 126) ≤ 125 at htravels
  rw [height_chain] at htravels
  omega

end Microworlds.Proofs

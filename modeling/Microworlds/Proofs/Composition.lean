import Microworlds.Proofs.Atomicity
import Microworlds.Proofs.Text

/-!
# Runs of joined and of thinned texts

A text after another one is carried out like a text of its own that begins with the state the first one
left. Only its lines have other numbers. A line that fails can be left empty, for it changes nothing.
-/

namespace Microworlds.Proofs

open Text

lemma numbered_append (number : Nat) (a b : List (List Char)) :
    numbered number (a ++ b) = numbered number a ++ numbered (number + a.length) b := by
  induction a generalizing number with
  | nil => rfl
  | cons line more ih =>
    have hnext : number + 1 + more.length = number + (line :: more).length := by
      rw [List.length_cons]; omega
    simp only [List.cons_append, numbered, ih, hnext]
    cases statement? line with
    | none => rfl
    | some said => rfl

lemma numbered_add (number skipped : Nat) (lines : List (List Char)) :
    numbered (number + skipped) lines =
      (numbered number lines).map fun statement => (statement.1 + skipped, statement.2) := by
  induction lines generalizing number with
  | nil => rfl
  | cons line more ih =>
    have hnext := ih (number + 1)
    rw [Nat.add_right_comm] at hnext
    simp only [numbered, hnext]
    cases statement? line with
    | none => rfl
    | some said => rfl

/-- The result of a line that stands further below. -/
def later (lines : Nat) (result : LineResult) : LineResult :=
  { result with lineNumber := result.lineNumber + lines }

lemma attempt_add (rules : List (Rule Command)) (state : State) (number lines : Nat) (line : String) :
    attempt rules state (number + lines) line =
      (attempt rules state number line).map fun done => (later lines done.1, done.2) := by
  unfold attempt
  split <;> rfl

lemma runStatements_add (rules : List (Rule Command)) (lines : Nat) (state : State)
    (statements : List (Nat × String)) :
    runStatements rules state (statements.map fun s => (s.1 + lines, s.2)) =
      (runStatements rules state statements).map fun run => (run.1.map (later lines), run.2) := by
  induction statements generalizing state with
  | nil => rfl
  | cons statement more ih =>
    simp only [List.map_cons, runStatements, attempt_add]
    cases attempt rules state statement.1 statement.2 with
    | none => rfl
    | some done =>
      simp only [Option.map_some, Option.bind_eq_bind, Option.bind_some, ih]
      cases runStatements rules done.2 more with
      | none => rfl
      | some run => rfl

lemma runStatements_append (rules : List (Rule Command)) (state : State)
    (a b : List (Nat × String)) :
    runStatements rules state (a ++ b) = do
      let (first, middle) ← runStatements rules state a
      let (second, last) ← runStatements rules middle b
      return (first ++ second, last) := by
  induction a generalizing state with
  | nil =>
    cases hb : runStatements rules state b with
    | none => simp [runStatements, hb]
    | some run => simp [runStatements, hb]
  | cons statement more ih =>
    simp only [List.cons_append, runStatements]
    cases attempt rules state statement.1 statement.2 with
    | none => rfl
    | some done =>
      simp only [Option.bind_eq_bind, Option.bind_some, ih]
      cases runStatements rules done.2 more with
      | none => rfl
      | some run =>
        simp only [Option.bind_some]
        cases hb : runStatements rules run.2 b with
        | none => simp [hb]
        | some last => simp [hb]

lemma attempt_number {rules : List (Rule Command)} {state next : State} {number : Nat}
    {line : String} {result : LineResult}
    (h : attempt rules state number line = some (result, next)) : result.lineNumber = number := by
  unfold attempt at h
  split at h <;> cases h <;> rfl

lemma attempt_failure {rules : List (Rule Command)} {state next : State} {number : Nat}
    {line : String} {result : LineResult}
    (h : attempt rules state number line = some (result, next))
    (hfails : result.isSuccess = false) : next = state := by
  unfold attempt at h
  split at h
  · cases h
    cases hfails
  · next failure t hrun =>
    cases h
    exact execute_atomic rules line _ _ _ hrun
  · cases h

lemma runStatements_filter (rules : List (Rule Command)) (picked : Nat → Bool) (state last : State)
    (statements : List (Nat × String)) (results : List LineResult)
    (hrun : runStatements rules state statements = some (results, last))
    (hfails : ∀ r ∈ results, picked r.lineNumber = true → r.isSuccess = false) :
    runStatements rules state (statements.filter fun s => !picked s.1) =
      some (results.filter fun r => !picked r.lineNumber, last) := by
  induction statements generalizing state results with
  | nil =>
    cases hrun
    rfl
  | cons statement more ih =>
    obtain ⟨number, line⟩ := statement
    simp only [runStatements, Option.bind_eq_bind, Option.bind_eq_some_iff] at hrun
    obtain ⟨⟨result, next⟩, hattempt, ⟨others, _⟩, hmore, hpure⟩ := hrun
    cases hpure
    have hothers := ih next others hmore fun r hr => hfails r (List.mem_cons_of_mem _ hr)
    have hnumber := attempt_number hattempt
    by_cases hpicked : picked number = true
    · have hnext : next = state :=
        attempt_failure hattempt (hfails result List.mem_cons_self (hnumber ▸ hpicked))
      rw [hnext] at hothers
      simpa [hpicked, hnumber] using hothers
    · simp only [Bool.not_eq_true] at hpicked
      simp [hpicked, hnumber, runStatements, hattempt, hothers]

def emptied (picked : Nat → Bool) : Nat → List (List Char) → List (List Char)
  | _, [] => []
  | number, line :: more => (if picked number then [] else line) :: emptied picked (number + 1) more

/-- The text with the picked lines left empty. Lines are counted from 1. -/
def withoutLines (picked : Nat → Bool) (text : String) : String :=
  String.ofList (['\n'].intercalate (emptied picked 1 (pieces '\n' text.toList)))

lemma not_mem_of_mem_emptied {picked : Nat → Bool} {number : Nat} {lines : List (List Char)}
    (h : ∀ line ∈ lines, '\n' ∉ line) : ∀ line ∈ emptied picked number lines, '\n' ∉ line := by
  induction lines generalizing number with
  | nil => simp [emptied]
  | cons first more ih =>
    intro line hline
    rw [emptied, List.mem_cons] at hline
    obtain rfl | hline := hline
    · split
      · simp
      · exact h first List.mem_cons_self
    · exact ih (fun l hl => h l (List.mem_cons_of_mem first hl)) line hline

lemma pieces_withoutLines (picked : Nat → Bool) (text : String) :
    pieces '\n' (withoutLines picked text).toList = emptied picked 1 (pieces '\n' text.toList) := by
  rw [withoutLines, String.toList_ofList]
  apply pieces_intercalate
  · obtain ⟨line, more, h⟩ := List.exists_cons_of_ne_nil (pieces_ne_nil '\n' text.toList)
    simp [h, emptied]
  · exact not_mem_of_mem_emptied fun line => not_mem_of_mem_pieces

lemma numbered_emptied (picked : Nat → Bool) (number : Nat) (lines : List (List Char)) :
    numbered number (emptied picked number lines) =
      (numbered number lines).filter fun s => !picked s.1 := by
  have hempty : statement? [] = none := rfl
  induction lines generalizing number with
  | nil => rfl
  | cons line more ih =>
    simp only [emptied, numbered, ih]
    cases hpicked : picked number with
    | true =>
      simp only [if_true, hempty]
      cases statement? line with
      | none => rfl
      | some said => simp [hpicked]
    | false =>
      simp only [Bool.false_eq_true, if_false]
      cases statement? line with
      | none => rfl
      | some said => simp [hpicked]

/-- The number of line feeds of a text. -/
def lineFeeds (text : String) : Nat :=
  text.toList.count '\n'

lemma statements_append (a b : String) :
    statements (a ++ "\n" ++ b) =
      statements a ++ (statements b).map fun s => (s.1 + (lineFeeds a + 1), s.2) := by
  have htext : (a ++ "\n" ++ b).toList = a.toList ++ '\n' :: b.toList := by simp
  rw [statements, htext, pieces_append, numbered_append, length_pieces, numbered_add]
  rfl

lemma interpret_append (scenario : Scenario) (state : State) (a b : String) :
    interpret scenario state (a ++ "\n" ++ b) = do
      let (first, middle) ← interpret scenario state a
      let (second, last) ← interpret scenario middle b
      return (first ++ second.map (later (lineFeeds a + 1)), last) := by
  unfold interpret
  rw [statements_append, runStatements_append]
  simp only [runStatements_add]
  cases runStatements (rulesOf scenario) state (statements a) with
  | none => rfl
  | some run =>
    simp only [Option.bind_eq_bind, Option.bind_some]
    cases runStatements (rulesOf scenario) run.2 (statements b) with
    | none => rfl
    | some second => rfl

lemma interpret_withoutLines (scenario : Scenario) (state last : State) (text : String)
    (picked : Nat → Bool) (results : List LineResult)
    (hrun : interpret scenario state text = some (results, last))
    (hfails : ∀ r ∈ results, picked r.lineNumber = true → r.isSuccess = false) :
    interpret scenario state (withoutLines picked text) =
      some (results.filter fun r => !picked r.lineNumber, last) := by
  rw [interpret, statements, pieces_withoutLines, numbered_emptied]
  exact runStatements_filter _ picked state last _ results hrun hfails

/-- The run of a text that continues another one is the run of the first and then, on the state that it
left, the run of the second with its lines numbered on. Leaving any failing lines empty takes away
their results and changes nothing else. -/
theorem interpret_composes (scenario : Scenario) (state : State) :
    (∀ a b : String, interpret scenario state (a ++ "\n" ++ b) = do
      let (first, middle) ← interpret scenario state a
      let (second, last) ← interpret scenario middle b
      return (first ++ second.map (later (lineFeeds a + 1)), last)) ∧
    (∀ (text : String) (picked : Nat → Bool) (results : List LineResult) (last : State),
      interpret scenario state text = some (results, last) →
      (∀ r ∈ results, picked r.lineNumber = true → r.isSuccess = false) →
      interpret scenario state (withoutLines picked text) =
        some (results.filter fun r => !picked r.lineNumber, last)) :=
  ⟨interpret_append scenario state,
    fun text picked results last => interpret_withoutLines scenario state last text picked results⟩

/-- The first of two lines fails on an empty stack, and the text without it has the run of the second. -/
theorem early_pop_left_empty :
    let popped : LineResult := ⟨1, "stack.pop()", .failure .precondition "stack empty"⟩
    let pushed : LineResult := ⟨2, "stack.push(\"a\")", .success (.plain "stack push: a")⟩
    let start : State := .dataStructure .initial
    ∃ last,
      interpret .dataStructure start "stack.pop()\nstack.push(\"a\")" = some ([popped, pushed], last) ∧
      interpret .dataStructure start "\nstack.push(\"a\")" = some ([pushed], last) := by
  intro popped pushed start
  have hresults : (interpret .dataStructure start "stack.pop()\nstack.push(\"a\")").map (·.1) =
      some [popped, pushed] := by
    decide +kernel
  have htext : withoutLines (· == 1) "stack.pop()\nstack.push(\"a\")" =
      "\nstack.push(\"a\")" := by
    decide +kernel
  obtain ⟨⟨results, last⟩, hrun, rfl⟩ := Option.map_eq_some_iff.mp hresults
  have hempty := (interpret_composes .dataStructure start).2 _ (· == 1) _ last hrun (by decide)
  rw [htext] at hempty
  exact ⟨last, hrun, hempty⟩

end Microworlds.Proofs

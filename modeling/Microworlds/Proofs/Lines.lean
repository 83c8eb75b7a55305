import Microworlds.Proofs.Composition
import Microworlds.Proofs.Overflow

/-!
# Lines of programs

A program has a result for each of its lines that says something, in the order of the lines, with the
number of the line and its text without the white space at its ends. How a text is laid out does not
count: a carriage return before each line feed, white space at the ends of lines and a line feed at the
end of the text leave the whole run as it is.
-/

namespace Microworlds.Proofs

open Text

/-! ### White space at the ends of a line -/

lemma trimStart_append {before : List Char} (h : ∀ c ∈ before, isBlank c = true)
    (text : List Char) : trimStart (before ++ text) = trimStart text :=
  List.dropWhile_append_of_pos h

lemma trimEnd_append {after : List Char} (h : ∀ c ∈ after, isBlank c = true)
    (text : List Char) : trimEnd (text ++ after) = trimEnd text := by
  unfold trimEnd
  rw [List.reverse_append, List.dropWhile_append_of_pos]
  intro c hc
  exact h c (List.mem_reverse.mp hc)

lemma trim_padded {before after : List Char} (hbefore : ∀ c ∈ before, isBlank c = true)
    (hafter : ∀ c ∈ after, isBlank c = true) (text : List Char) :
    trim (before ++ text ++ after) = trim text := by
  unfold trim
  rw [List.append_assoc, trimStart_append hbefore]
  by_cases hblank : trimStart text = []
  · have hall : ∀ c ∈ text, isBlank c = true := List.dropWhile_eq_nil_iff.mp hblank
    have hnone : trimStart after = [] := List.dropWhile_eq_nil_iff.mpr hafter
    rw [trimStart_append hall, hnone, hblank]
  · have hkept : trimStart (text ++ after) = trimStart text ++ after := by
      unfold trimStart at hblank ⊢
      rw [List.dropWhile_append, if_neg]
      simpa using hblank
    rw [hkept, trimEnd_append hafter]

lemma exists_padded (text : List Char) :
    ∃ before after, text = before ++ trim text ++ after ∧
      (∀ c ∈ before, isBlank c = true) ∧ ∀ c ∈ after, isBlank c = true := by
  have hstart : text = text.takeWhile isBlank ++ trimStart text :=
    List.takeWhile_append_dropWhile.symm
  have hend : trimStart text =
      trim text ++ ((trimStart text).reverse.takeWhile isBlank).reverse := by
    unfold trim trimEnd
    rw [← List.reverse_append, List.takeWhile_append_dropWhile, List.reverse_reverse]
  refine ⟨text.takeWhile isBlank, ((trimStart text).reverse.takeWhile isBlank).reverse, ?_, ?_, ?_⟩
  · rw [List.append_assoc, ← hend]
    exact hstart
  · intro c hc
    exact List.mem_takeWhile_imp hc
  · intro c hc
    exact List.mem_takeWhile_imp (List.mem_reverse.mp hc)

lemma trim_trim (text : List Char) : trim (trim text) = trim text := by
  obtain ⟨before, after, htext, hbefore, hafter⟩ := exists_padded text
  have hpadded := trim_padded hbefore hafter (trim text)
  rw [← htext] at hpadded
  exact hpadded.symm

lemma execute_trimmed (rules : List (Rule Command)) (line : String) :
    execute rules (trimmed line) = execute rules line := by
  unfold execute classify trimmed
  rw [String.toList_ofList, trim_trim]

/-! ### What lines say -/

/-- Whether a line says something that has no white space at its ends. -/
def Says (line : List Char) : Prop :=
  line ≠ [] ∧ ¬ ['#'] <+: line ∧ ¬ ['/', '/'] <+: line

instance (line : List Char) : Decidable (Says line) :=
  inferInstanceAs (Decidable (_ ∧ _ ∧ _))

lemma isComment_iff (line : List Char) :
    isComment line = true ↔ ['#'] <+: line ∨ ['/', '/'] <+: line := by
  unfold isComment
  split
  · simp
  · simp
  · next hhash hslashes =>
    constructor
    · intro h
      cases h
    · rintro (⟨rest, rfl⟩ | ⟨rest, rfl⟩)
      · exact absurd rfl (hhash rest)
      · exact absurd rfl (hslashes rest)

lemma statement?_eq_some_iff {line : List Char} {said : String} :
    statement? line = some said ↔ Says (trim line) ∧ said.toList = trim line := by
  have hcomment : isComment (trim line) = true ↔ _ := isComment_iff (trim line)
  unfold statement? Says
  simp only
  split
  · next hsilent =>
    rw [Bool.or_eq_true, List.isEmpty_iff, hcomment] at hsilent
    constructor
    · intro h
      cases h
    · rintro ⟨⟨hne, hhash, hslashes⟩, -⟩
      obtain hempty | h | h := hsilent
      · exact absurd hempty hne
      · exact absurd h hhash
      · exact absurd h hslashes
  · next hspoken =>
    rw [Bool.or_eq_true, List.isEmpty_iff, hcomment, not_or, not_or] at hspoken
    constructor
    · intro h
      cases h
      exact ⟨hspoken, String.toList_ofList⟩
    · rintro ⟨-, hsaid⟩
      rw [← hsaid, String.ofList_toList]

lemma mem_numbered {first number : Nat} {said : String} {lines : List (List Char)} :
    (number, said) ∈ numbered first lines ↔
      ∃ n line, lines[n]? = some line ∧ number = first + n ∧ statement? line = some said := by
  induction lines generalizing first with
  | nil => simp [numbered]
  | cons line more ih =>
    have hmore : (number, said) ∈ numbered (first + 1) more ↔
        ∃ n later, (line :: more)[n + 1]? = some later ∧ number = first + (n + 1) ∧
          statement? later = some said := by
      rw [ih]
      simp only [List.getElem?_cons_succ, Nat.add_assoc, Nat.add_comm 1]
    have hsplit : (∃ n later, (line :: more)[n]? = some later ∧ number = first + n ∧
          statement? later = some said) ↔
        (number = first ∧ statement? line = some said) ∨
          ∃ n later, (line :: more)[n + 1]? = some later ∧ number = first + (n + 1) ∧
            statement? later = some said := by
      constructor
      · rintro ⟨n, later, hline, hnumber, hsaid⟩
        cases n with
        | zero =>
          cases hline
          exact .inl ⟨hnumber, hsaid⟩
        | succ n => exact .inr ⟨n, later, hline, hnumber, hsaid⟩
      · rintro (⟨hnumber, hsaid⟩ | ⟨n, later, hline, hnumber, hsaid⟩)
        · exact ⟨0, line, rfl, hnumber, hsaid⟩
        · exact ⟨n + 1, later, hline, hnumber, hsaid⟩
    rw [hsplit, ← hmore, numbered]
    cases statement? line with
    | none => simp
    | some text => simp [eq_comm]

lemma numbered_ascending (first : Nat) (lines : List (List Char)) :
    ((numbered first lines).map Prod.fst).Pairwise (· < ·) := by
  induction lines generalizing first with
  | nil => exact .nil
  | cons line more ih =>
    rw [numbered]
    split
    · rw [List.map_cons, List.pairwise_cons]
      refine ⟨?_, ih (first + 1)⟩
      intro number hnumber
      obtain ⟨⟨_, said⟩, hmem, rfl⟩ := List.mem_map.mp hnumber
      obtain ⟨n, later, -, hplace, -⟩ := mem_numbered.mp hmem
      omega
    · exact ih (first + 1)

lemma runStatements_lines {rules : List (Rule Command)} {state last : State}
    {statements : List (Nat × String)} {results : List LineResult}
    (h : runStatements rules state statements = some (results, last)) :
    results.map (fun result => (result.lineNumber, result.sourceLine)) = statements := by
  induction statements generalizing state results with
  | nil =>
    cases h
    rfl
  | cons statement more ih =>
    obtain ⟨⟨result, next⟩, hattempt, h⟩ := Option.bind_eq_some_iff.mp h
    obtain ⟨⟨others, last⟩, hmore, h⟩ := Option.bind_eq_some_iff.mp h
    cases h
    have hresult : (result.lineNumber, result.sourceLine) = statement := by
      unfold attempt at hattempt
      split at hattempt <;> cases hattempt <;> rfl
    rw [List.map_cons, hresult, ih hmore]

/-! ### Other layouts -/

/-- Two lines that are the same but for the white space at their ends. -/
def Respaced (line other : List Char) : Prop :=
  ∃ before after before' after' core,
    line = before ++ core ++ after ∧ other = before' ++ core ++ after' ∧
      ∀ c ∈ before ++ after ++ before' ++ after', isBlank c = true

lemma Respaced.trim_eq {line other : List Char} (h : Respaced line other) :
    trim line = trim other := by
  obtain ⟨before, after, before', after', core, rfl, rfl, hblank⟩ := h
  simp only [List.mem_append] at hblank
  rw [trim_padded (fun c hc => hblank c (by simp [hc])) (fun c hc => hblank c (by simp [hc])),
    trim_padded (fun c hc => hblank c (by simp [hc])) (fun c hc => hblank c (by simp [hc]))]

lemma respaced_of_trim_eq {line other : List Char} (h : trim line = trim other) :
    Respaced line other := by
  obtain ⟨before, after, hline, hbefore, hafter⟩ := exists_padded line
  obtain ⟨before', after', hother, hbefore', hafter'⟩ := exists_padded other
  rw [← h] at hother
  refine ⟨before, after, before', after', trim line, hline, hother, ?_⟩
  intro c hc
  simp only [List.mem_append] at hc
  obtain ((hc | hc) | hc) | hc := hc
  · exact hbefore c hc
  · exact hafter c hc
  · exact hbefore' c hc
  · exact hafter' c hc

lemma respaced_of_map_trim_eq {lines others : List (List Char)}
    (h : lines.map trim = others.map trim) : List.Forall₂ Respaced lines others := by
  have hsame : List.Forall₂ (· = ·) (lines.map trim) (others.map trim) := by
    rw [List.forall₂_eq_eq_eq]
    exact h
  rw [List.forall₂_map_left_iff, List.forall₂_map_right_iff] at hsame
  apply hsame.imp
  intro line other
  exact respaced_of_trim_eq

lemma blank_return : ∀ c ∈ ['\r'], isBlank c = true :=
  List.forall_mem_singleton.mpr (by decide)

lemma respaced_append {after : List Char} (h : ∀ c ∈ after, isBlank c = true) (line : List Char) :
    Respaced line (line ++ after) :=
  ⟨[], [], [], after, line, by simp, by simp, by simpa using h⟩

lemma numbered_respaced {first : Nat} {lines others : List (List Char)}
    (h : List.Forall₂ Respaced lines others) : numbered first lines = numbered first others := by
  induction h generalizing first with
  | nil => rfl
  | cons hline hmore ih =>
    simp only [numbered, statement?, hline.trim_eq, ih]

/-- The text with a carriage return before each line feed. -/
def withReturns (text : String) : String :=
  String.ofList (text.toList.flatMap fun c => if c = '\n' then ['\r', '\n'] else [c])

/-- Ways to lay a text out anew. -/
inductive LaidOut (text : String) : String → Prop
  | returns : LaidOut text (withReturns text)
  /-- White space is put to the ends of lines or taken away there. -/
  | respaced (other : String)
      (hlines : List.Forall₂ Respaced (text.toList.splitOn '\n') (other.toList.splitOn '\n')) :
    LaidOut text other
  | ended : LaidOut text (text ++ "\n")

lemma pieces_eq_splitOn (mark : Char) (text : List Char) :
    pieces mark text = text.splitOn mark := by
  induction text with
  | nil => rfl
  | cons c rest ih =>
    rw [List.splitOn, List.splitOnP_cons_eq_if_modifyHead, ← List.splitOn, ← ih, pieces]
    simp only [beq_iff_eq]
    split
    · rfl
    · obtain ⟨piece, more, hrest⟩ := List.exists_cons_of_ne_nil (pieces_ne_nil mark rest)
      rw [hrest]
      rfl

lemma pieces_withReturns (text : String) :
    List.Forall₂ Respaced (pieces '\n' text.toList) (pieces '\n' (withReturns text).toList) := by
  unfold withReturns
  rw [String.toList_ofList]
  suffices hpadded : List.Forall₂
      (fun line other => ∃ after, other = line ++ after ∧ ∀ c ∈ after, isBlank c = true)
      (pieces '\n' text.toList)
      (pieces '\n' (text.toList.flatMap fun c => if c = '\n' then ['\r', '\n'] else [c])) by
    apply hpadded.imp
    rintro line other ⟨after, rfl, hblank⟩
    exact respaced_append hblank line
  induction text.toList with
  | nil => exact .cons ⟨[], rfl, nofun⟩ .nil
  | cons c rest ih =>
    by_cases hc : c = '\n'
    · subst hc
      exact .cons ⟨['\r'], rfl, blank_return⟩ ih
    · rw [List.flatMap_cons, if_neg hc, List.singleton_append, pieces, pieces, if_neg hc, if_neg hc]
      generalize pieces '\n' rest = lines, pieces '\n' (List.flatMap _ rest) = others at ih ⊢
      cases ih with
      | nil => exact .cons ⟨[], rfl, nofun⟩ .nil
      | cons hline hmore =>
        obtain ⟨after, rfl, hblank⟩ := hline
        exact .cons ⟨after, rfl, hblank⟩ hmore

lemma statements_laidOut {text other : String} (h : LaidOut text other) :
    statements other = statements text := by
  unfold statements
  cases h with
  | returns => exact (numbered_respaced (pieces_withReturns text)).symm
  | respaced other hlines =>
    rw [← pieces_eq_splitOn, ← pieces_eq_splitOn] at hlines
    exact (numbered_respaced hlines).symm
  | ended =>
    have htext : (text ++ "\n").toList = text.toList ++ '\n' :: [] := by simp
    have hblank : ∀ number, numbered number (pieces '\n' []) = [] := fun number => rfl
    rw [htext, pieces_append, numbered_append, hblank, List.append_nil]

/-! ### Lines with their ends -/

/-- A line without the carriage return at its end, if there is one. -/
def withoutReturn (line : List Char) : List Char :=
  if line.getLast? = some '\r' then line.dropLast else line

/-- Lines as they are commonly read from the pieces of a text. The pieces before the last one ended with
a line feed, and a carriage return in front of it is a part of the end. The last piece is no line if
it is empty. -/
def endedLines : List (List Char) → List (List Char)
  | [] => []
  | [last] => if last = [] then [] else [last]
  | line :: next :: more => withoutReturn line :: endedLines (next :: more)

lemma trim_withoutReturn (line : List Char) : trim (withoutReturn line) = trim line := by
  unfold withoutReturn
  split
  · next hreturn =>
    have hline : line = line.dropLast ++ ['\r'] := (List.dropLast_append_getLast? '\r' hreturn).symm
    have hsame := (respaced_append blank_return line.dropLast).trim_eq
    rwa [← hline] at hsame
  · rfl

lemma numbered_endedLines (first : Nat) (lines : List (List Char)) :
    numbered first (endedLines lines) = numbered first lines := by
  induction lines generalizing first with
  | nil => rfl
  | cons line more ih =>
    cases more with
    | nil =>
      rw [endedLines]
      split
      · next hempty =>
        subst hempty
        rfl
      · rfl
    | cons next more =>
      simp only [endedLines, numbered, statement?, trim_withoutReturn] at ih ⊢
      rw [ih]

/-- A program is read by its lines. It is carried out to its end unless it breaks down over the marks
of a chat. Then its results belong to the lines that say something after trimming, one to each and in
the order of the lines, with the number of the line, counted from 1, and what it says. Whether the line
is trimmed once more before it is carried out makes no difference, nor does it whether line feeds and
carriage returns at the ends of lines are taken for parts of the lines. A text that is laid out in
another way has the same run. -/
theorem results_follow_lines (scenario : Scenario) (state : State) (code : String) :
    (Reckonable state → ∃ results last, interpret scenario state code = some (results, last)) ∧
    (∀ results last, interpret scenario state code = some (results, last) →
      (results.map (·.lineNumber)).Pairwise (· < ·) ∧
      ∀ number said,
        (∃ result ∈ results, result.lineNumber = number ∧ result.sourceLine = said) ↔
          ∃ n line, (code.toList.splitOn '\n')[n]? = some line ∧ number = n + 1 ∧
            Says (trim line) ∧ said.toList = trim line) ∧
    (∀ rules line, execute rules (trimmed line) = execute rules line) ∧
    numbered 1 (endedLines (code.toList.splitOn '\n')) = statements code ∧
    ∀ other, LaidOut code other →
      interpret scenario state other = interpret scenario state code := by
  refine ⟨?_, ?_, execute_trimmed, ?_, ?_⟩
  · intro hstate
    obtain ⟨results, last, hrun, -⟩ :=
      runStatements_reckonable (rulesOf scenario) hstate (statements code)
    exact ⟨results, last, hrun⟩
  · intro results last hrun
    have hlines := runStatements_lines hrun
    constructor
    · have hnumbers := congrArg (List.map Prod.fst) hlines
      rw [List.map_map] at hnumbers
      change results.map (·.lineNumber) = _ at hnumbers
      rw [hnumbers]
      exact numbered_ascending 1 _
    · intro number said
      have hresult : (∃ result ∈ results, result.lineNumber = number ∧ result.sourceLine = said) ↔
          (number, said) ∈ statements code := by
        rw [← hlines, List.mem_map]
        simp only [Prod.mk.injEq]
      rw [hresult, statements, mem_numbered, pieces_eq_splitOn]
      simp only [statement?_eq_some_iff, Nat.add_comm 1]
  · rw [numbered_endedLines, ← pieces_eq_splitOn]
    rfl
  · intro other hother
    unfold interpret
    rw [statements_laidOut hother]

/-- A comment behind a tab, a line that is only seemingly empty, and two kinds of wide spaces. -/
theorem untidy_text_read :
    let tidy := "# setup\nx = 1\n\nif x > 5:"
    let untidy := "\t# setup\r\nx = 1 \r\n\u00A0\r\n\u3000if x > 5:\u2003\r"
    let start : State := .programming .initial
    ∃ results last, interpret .programming start tidy = some (results, last) ∧
      interpret .programming start untidy = some (results, last) ∧
      ∃ result ∈ results, result.lineNumber = 4 ∧ result.sourceLine = "if x > 5:" := by
  intro tidy untidy start
  obtain ⟨hends, hresults, -, -, hlayout⟩ := results_follow_lines .programming start tidy
  obtain ⟨results, last, hrun⟩ := hends trivial
  have hlines : List.Forall₂ Respaced (tidy.toList.splitOn '\n') (untidy.toList.splitOn '\n') :=
    respaced_of_map_trim_eq (by decide +kernel)
  refine ⟨results, last, hrun, ?_, ?_⟩
  · rw [hlayout untidy (.respaced untidy hlines), hrun]
  · apply ((hresults results last hrun).2 4 "if x > 5:").mpr
    exact ⟨3, "if x > 5:".toList, by decide +kernel, rfl, by decide +kernel, by decide +kernel⟩

end Microworlds.Proofs

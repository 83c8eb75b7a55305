import Microworlds.Proofs.Careful.Tokens
import Microworlds.Proofs.Statement.Numerals

/-!
# Formulas in any spacing

A formula is written as numbers, names, operators and brackets with white space between them. In every
spacing the same tokens are read, each with the position at which it is written, as long as there is white
space where one would run into the next.
-/

namespace Microworlds.Proofs

open Formula

/-! ### Tokens as they are written -/

/-- The character that an operator or a bracket is written as. -/
def glyph? : Token → Option Char
  | .number _ | .name _ => none
  | .plus => some '+'
  | .minus => some '-'
  | .times => some '*'
  | .slash => some '/'
  | .percent => some '%'
  | .caret => some '^'
  | .opening => some '('
  | .closing => some ')'

/-- A token as it is written. -/
inductive Lexeme where
  | numeral (text : List Char) (h : IsNumeral text)
  | name (text : String) (h : IsName text)
  | symbol (token : Token) (c : Char) (h : glyph? token = some c)

namespace Lexeme

def text : Lexeme → List Char
  | numeral text _ => text
  | name text _ => text.toList
  | symbol _ c _ => [c]

def token : Lexeme → Token
  | numeral text _ => .number (numeralValue text)
  | name text _ => .name text
  | symbol token _ _ => token

/-- With the character behind it, it would be a longer one. -/
def Extends (lexeme : Lexeme) (c : Char) : Prop :=
  ∃ longer : Lexeme, longer.text = lexeme.text ++ [c]

/-- Without white space between them, the left one would go on into the right one. -/
def Merges (left right : Lexeme) : Prop :=
  ∃ c more, right.text = c :: more ∧ left.Extends c

end Lexeme

/-- A token as it is written, and the white space in front of it. -/
structure Spaced where
  gap : List Char
  blank : ∀ c ∈ gap, Text.isBlank c = true
  lexeme : Lexeme

def Spaced.text (piece : Spaced) : List Char :=
  piece.gap ++ piece.lexeme.text

/-- Tokens in some spacing, with white space where one would go on into the next. -/
structure Spacing where
  pieces : List Spaced
  apart : pieces.IsChain fun left right => left.lexeme.Merges right.lexeme → right.gap ≠ []
  tail : List Char
  blank : ∀ c ∈ tail, Text.isBlank c = true

/-- The tokens of pieces of which the first is written at the position. -/
def placedFrom : Nat → List Spaced → List Placed
  | _, [] => []
  | position, piece :: more =>
    ⟨piece.lexeme.token, position + piece.gap.length⟩ ::
      placedFrom (position + piece.text.length) more

namespace Spacing

def text (spacing : Spacing) : List Char :=
  spacing.pieces.flatMap Spaced.text ++ spacing.tail

def placed (spacing : Spacing) : List Placed :=
  placedFrom 0 spacing.pieces

end Spacing

/-! ### Where tokens end -/

/-- The characters behind a number do not belong to it. -/
def EndsNumber (text rest : List Char) : Prop :=
  ∀ c more, rest = c :: more → c.isDigit = false ∧ (c = '.' → '.' ∈ text)

lemma numberText_append_of_parts {text rest : List Char} (h : NumeralParts text)
    (hrest : EndsNumber text rest) : numberText (text ++ rest) = (text, rest) := by
  cases h with
  | whole hne hdigits =>
    unfold numberText
    rw [digits_append hdigits fun c more h => (hrest c more h).1]
    cases rest with
    | nil => rfl
    | cons c more =>
      have hpoint : c ≠ '.' := fun hc => by
        have hmem := (hrest c more rfl).2 hc
        cases hdigits _ hmem
      simp only
      split
      · next h => cases h; exact absurd rfl hpoint
      · rfl
  | pointed hne hdigits hfraction =>
    unfold numberText
    rw [List.append_assoc, List.cons_append, digits_append hdigits (by rintro c more ⟨⟩; rfl)]
    simp only
    rw [digits_append hfraction fun c more h => (hrest c more h).1]

lemma not_number_of_startsName {c : Char} (h : Text.startsName c = true) :
    ¬ (c.isDigit = true ∨ c = '.') := by
  simp only [Text.startsName, Bool.or_eq_true, Bool.and_eq_true, decide_eq_true_eq, beq_iff_eq,
    Char.le_def, UInt32.le_iff_toNat_le] at h
  rw [isDigit_iff]
  rintro (hdigit | rfl)
  · obtain (h | h) | rfl := h
    · simp at h
      omega
    · simp at h
      omega
    · revert hdigit
      decide
  · simp at h

namespace Lexeme

variable {lexeme : Lexeme} {c : Char}

lemma dark (lexeme : Lexeme) : ∀ c ∈ lexeme.text, Text.isBlank c = false := by
  intro c hc
  cases lexeme with
  | numeral text h =>
    obtain hdigit | rfl := h.fits c hc
    · exact (visible_of_isDigit hdigit).not_blank
    · rfl
  | name text h =>
    obtain ⟨head, more, htext, hhead, hmore⟩ := h
    have hmem : c ∈ head :: more := by rwa [← htext]
    obtain rfl | hc := List.mem_cons.1 hmem
    · exact (visible_of_continuesName (by rw [Text.continuesName, hhead]; rfl)).not_blank
    · exact (visible_of_continuesName (hmore c hc)).not_blank
  | symbol token glyph h =>
    obtain rfl := List.mem_singleton.1 hc
    cases token <;> cases h <;> rfl

lemma not_extends_blank (hblank : Text.isBlank c = true) : ¬ lexeme.Extends c := by
  rintro ⟨longer, hlonger⟩
  have hdark := longer.dark c (by rw [hlonger]; simp)
  rw [hblank] at hdark
  cases hdark

lemma numeral_of_text {more : List Char} (h : lexeme.text = c :: more) (hmore : more ≠ [])
    (hc : c.isDigit = true ∨ c = '.') : IsNumeral (c :: more) := by
  cases lexeme with
  | numeral text hnumeral => exact h ▸ hnumeral
  | name text hname =>
    obtain ⟨head, others, htext, hhead, -⟩ := id hname
    cases htext.symm.trans h
    exact absurd hc (not_number_of_startsName hhead)
  | symbol token glyph hglyph =>
    cases h
    exact absurd rfl hmore

lemma name_of_text {more : List Char} (h : lexeme.text = c :: more) (hmore : more ≠ [])
    (hc : Text.startsName c = true) : ∀ d ∈ more, Text.continuesName d = true := by
  cases lexeme with
  | numeral text hnumeral =>
    obtain rfl : text = c :: more := h
    exact absurd (hnumeral.fits c List.mem_cons_self) (not_number_of_startsName hc)
  | name text hname =>
    obtain ⟨head, others, htext, -, hothers⟩ := id hname
    cases htext.symm.trans h
    exact hothers
  | symbol token glyph hglyph =>
    cases h
    exact absurd rfl hmore

lemma extends_numeral_iff {text : List Char} {h : IsNumeral text} :
    (numeral text h).Extends c ↔ c.isDigit = true ∨ c = '.' ∧ '.' ∉ text := by
  obtain ⟨d, hd, hdigit⟩ := h.digit
  constructor
  · rintro ⟨longer, hlonger⟩
    obtain ⟨first, more, rfl⟩ := List.exists_cons_of_ne_nil (List.ne_nil_of_mem hd)
    have hlong : IsNumeral (first :: (more ++ [c])) :=
      numeral_of_text hlonger (by simp) (h.fits first List.mem_cons_self)
    refine (hlong.fits c (by simp)).imp_right ?_
    rintro rfl
    refine ⟨rfl, fun hmem => ?_⟩
    have hone := hlong.points
    have hpoint := List.count_pos_iff.2 hmem
    rw [← List.cons_append, List.count_append, List.count_singleton_self] at hone
    omega
  · intro hc
    refine ⟨.numeral (text ++ [c]) ⟨?_, ?_, d, List.mem_append_left _ hd, hdigit⟩, rfl⟩
    · exact List.forall_mem_append.2 ⟨h.fits, List.forall_mem_singleton.2 (hc.imp_right And.left)⟩
    · rw [List.count_append, List.count_singleton]
      obtain hc | ⟨rfl, hnone⟩ := hc
      · rw [if_neg (by rintro hpoint; cases eq_of_beq hpoint; cases hc)]
        exact h.points
      · rw [List.count_eq_zero_of_not_mem hnone]
        decide

lemma extends_name_iff {text : String} {h : IsName text} :
    (name text h).Extends c ↔ Text.continuesName c = true := by
  obtain ⟨head, more, htext, hhead, hmore⟩ := id h
  constructor
  · rintro ⟨longer, hlonger⟩
    have hlong : longer.text = head :: (more ++ [c]) := by
      rw [hlonger, ← List.cons_append, ← htext]
      rfl
    exact name_of_text hlong (by simp) hhead c (by simp)
  · intro hc
    refine ⟨.name (text ++ String.singleton c) ⟨head, more ++ [c], by simp [htext], hhead, ?_⟩, ?_⟩
    · exact List.forall_mem_append.2 ⟨hmore, List.forall_mem_singleton.2 hc⟩
    · simp [Lexeme.text]

/-- The reader takes a token to its end, if it cannot go on there. -/
lemma token?_append (lexeme : Lexeme) (rest : List Char)
    (hrest : ∀ c more, rest = c :: more → ¬ lexeme.Extends c) :
    ∃ c more, lexeme.text = c :: more ∧
      token? c (more ++ rest) = some (lexeme.token, lexeme.text.length, rest) := by
  cases lexeme with
  | numeral text h =>
    obtain ⟨d, hd, -⟩ := h.digit
    obtain ⟨c, more, htext⟩ := List.exists_cons_of_ne_nil (List.ne_nil_of_mem hd)
    refine ⟨c, more, htext, ?_⟩
    have hfront : ((Text.digitValue? c).isSome || c == '.') = true := by
      rw [isSome_digitValue?]
      simpa using h.fits c (by rw [htext]; exact List.mem_cons_self)
    have hends : EndsNumber text rest := fun c more heq => by
      have hstop := hrest c more heq
      rw [extends_numeral_iff, not_or, not_and, not_not] at hstop
      exact ⟨by simpa using hstop.1, hstop.2⟩
    have hnumber := numberText_append_of_parts h.parts hends
    rw [htext, List.cons_append] at hnumber
    rw [Formula.token?, if_pos hfront, hnumber, ← htext]
    simp only [read?_numeral h]
    rfl
  | name text h =>
    obtain ⟨c, more, htext, hc, hmore⟩ := id h
    refine ⟨c, more, htext, ?_⟩
    have hspan := span_append hmore fun d others heq =>
      Bool.eq_false_iff.2 (extends_name_iff.not.1 (hrest d others heq))
    have hlength : (name text h).text.length = more.length + 1 := congrArg List.length htext
    have hname : String.ofList (c :: more) = text := by rw [← htext, String.ofList_toList]
    have hfront : ¬ ((Text.digitValue? c).isSome || c == '.') = true := by
      rw [isSome_digitValue?]
      simpa using not_number_of_startsName hc
    rw [Formula.token?, if_neg hfront, if_pos hc, hspan, hlength]
    simp only [hname]
    rfl
  | symbol token c h =>
    refine ⟨c, [], rfl, ?_⟩
    cases token <;> cases h <;> rfl

end Lexeme

/-! ### Spacings -/

lemma scanFrom_gap {gap : List Char} (hblank : ∀ c ∈ gap, Text.isBlank c = true)
    (bound room position : Nat) (rest : List Char) :
    scanFrom (gap.length + bound) room position (gap ++ rest) =
      scanFrom bound room (position + gap.length) rest := by
  induction gap generalizing position with
  | nil => simp
  | cons c gap ih =>
    have hc := hblank c List.mem_cons_self
    have hmore := ih (fun d hd => hblank d (List.mem_cons_of_mem c hd)) (position + 1)
    rw [List.length_cons, Nat.add_right_comm, List.cons_append, scanFrom, if_pos hc, hmore]
    congr 1
    omega

lemma apart_following {piece : Spaced} {more : List Spaced} {tail : List Char}
    (hapart : (piece :: more).IsChain fun left right =>
      left.lexeme.Merges right.lexeme → right.gap ≠ [])
    (htail : ∀ c ∈ tail, Text.isBlank c = true) (c : Char) (rest : List Char)
    (h : more.flatMap Spaced.text ++ tail = c :: rest) : ¬ piece.lexeme.Extends c := by
  cases more with
  | nil =>
    rw [List.flatMap_nil, List.nil_append] at h
    exact Lexeme.not_extends_blank (htail c (by rw [h]; exact List.mem_cons_self))
  | cons next more =>
    have hnext := (List.isChain_cons_cons.1 hapart).1
    rw [List.flatMap_cons, Spaced.text] at h
    cases hgap : next.gap with
    | cons d gap =>
      rw [hgap] at h
      cases h
      exact Lexeme.not_extends_blank (next.blank _ (by rw [hgap]; exact List.mem_cons_self))
    | nil =>
      intro hextends
      obtain ⟨d, others, htext, -⟩ := next.lexeme.token?_append [] nofun
      rw [hgap, htext] at h
      cases h
      exact hnext ⟨_, others, htext, hextends⟩ hgap

lemma scanFrom_pieces {pieces : List Spaced} {tail : List Char}
    (hapart : pieces.IsChain fun left right => left.lexeme.Merges right.lexeme → right.gap ≠ [])
    (htail : ∀ c ∈ tail, Text.isBlank c = true) {bound room position : Nat}
    (hbound : (pieces.flatMap Spaced.text ++ tail).length ≤ bound) :
    scanFrom bound room position (pieces.flatMap Spaced.text ++ tail) =
      if pieces.length ≤ room then .ok (placedFrom position pieces) else .error .tooLong := by
  induction pieces generalizing bound room position with
  | nil =>
    obtain ⟨bound, rfl⟩ := Nat.exists_eq_add_of_le hbound
    have hblank := scanFrom_gap htail bound room position []
    simp only [List.append_nil] at hblank
    simpa [scanFrom, placedFrom] using hblank
  | cons piece more ih =>
    obtain ⟨c, others, htext, htoken⟩ :=
      piece.lexeme.token?_append _ (apart_following hapart htail)
    generalize hfollowing : more.flatMap Spaced.text ++ tail = following at *
    have hall : (piece :: more).flatMap Spaced.text ++ tail =
        piece.gap ++ c :: (others ++ following) := by
      rw [List.flatMap_cons, List.append_assoc, hfollowing, Spaced.text, htext, List.append_assoc]
      rfl
    have hlength : piece.text.length = piece.gap.length + (others.length + 1) := by
      rw [Spaced.text, htext, List.length_append, List.length_cons]
    have hdark : ¬ Text.isBlank c = true := by
      rw [piece.lexeme.dark c (by rw [htext]; exact List.mem_cons_self)]
      decide
    rw [hall] at hbound ⊢
    obtain ⟨bound, rfl⟩ : ∃ left, bound = piece.gap.length + (left + 1) := by
      simp only [List.length_append, List.length_cons] at hbound
      exact ⟨bound - piece.gap.length - 1, by omega⟩
    have hleft : following.length ≤ bound := by
      simp only [List.length_append, List.length_cons] at hbound
      omega
    rw [scanFrom_gap piece.blank, scanFrom, if_neg hdark, htoken]
    simp only
    cases room with
    | zero => rfl
    | succ room =>
      have hmore : scanFrom bound room (position + piece.text.length) following = _ :=
        ih (List.IsChain.of_cons hapart) hleft
      have hstart : position + piece.gap.length + piece.lexeme.text.length =
          position + piece.text.length := by
        rw [hlength, htext, List.length_cons]
        omega
      simp only [hstart, hmore, List.length_cons, Nat.add_le_add_iff_right]
      split <;> rfl

lemma placedFrom_written {pieces : List Spaced} (before : List Char) {tail : List Char} {k : Nat}
    {piece : Spaced} (h : pieces[k]? = some piece) :
    ∃ position, (placedFrom before.length pieces)[k]? = some ⟨piece.lexeme.token, position⟩ ∧
      piece.lexeme.text <+: (before ++ (pieces.flatMap Spaced.text ++ tail)).drop position := by
  induction pieces generalizing before k with
  | nil => cases h
  | cons first more ih =>
    cases k with
    | zero =>
      cases h
      refine ⟨before.length + piece.gap.length, rfl, more.flatMap Spaced.text ++ tail, ?_⟩
      rw [← List.drop_drop, List.drop_left' rfl, List.flatMap_cons, Spaced.text, List.append_assoc,
        List.append_assoc, List.drop_left' rfl]
    | succ k =>
      obtain ⟨position, hplaced, hwritten⟩ := ih (before ++ first.text) h
      refine ⟨position, ?_, ?_⟩
      · rwa [List.length_append] at hplaced
      · rwa [List.append_assoc, ← List.append_assoc first.text, ← List.flatMap_cons] at hwritten

lemma scanFrom_unexpected {text : List Char} {bound room position found : Nat} {rest : List Char} {c : Char}
    (hrest : text.drop position = rest)
    (h : scanFrom bound room position rest = .error (.unexpectedChar c found)) :
    text[found]? = some c := by
  fun_induction scanFrom bound room position rest with
  | case1 => cases h
  | case2 => cases h
  | case3 _ _ _ d rest hblank ih => exact ih (drop_succ_of_drop hrest) h
  | case4 _ _ _ d rest hdark htoken =>
    cases h
    exact getElem?_of_drop hrest
  | case5 => cases h
  | case6 bound position d rest hdark token length after htoken room ih =>
    obtain ⟨piece, hpiece, hlength⟩ := token?_split htoken
    have hafter : text.drop (position + length) = after := by
      rw [← List.drop_drop, hrest, hpiece, ← hlength, List.drop_left' rfl]
    refine ih hafter ?_
    cases hscan : scanFrom bound room (position + length) after with
    | ok more => rw [hscan] at h; cases h
    | error e => rw [hscan] at h; exact h

/-- Formulas are read alike in any spacing. Numbers, names, operators and brackets in any order, with any
white space before, between and behind them that keeps a number or a name from going on into the next token:
if they are at most 1024, exactly these tokens are read, each with the position at which it is written, and
otherwise the formula is too long. With positions and marks, as a machine reads it, there is the mark for the
end of the text behind the tokens. An unexpected character, in any text, stands in the text at the position
that is reported. -/
theorem scan_any_spacing :
    (∀ spacing : Spacing,
      scan (String.ofList spacing.text) =
        if spacing.pieces.length ≤ 1024 then .ok spacing.placed else .error .tooLong) ∧
    (∀ (spacing : Spacing) (k : Nat) (piece : Spaced), spacing.pieces[k]? = some piece →
      ∃ position, spacing.placed[k]? = some ⟨piece.lexeme.token, position⟩ ∧
        piece.lexeme.text <+: spacing.text.drop position) ∧
    (∀ spacing : Spacing,
      Careful.tokenize spacing.text (spacing.text.length + 1) 0 0 =
        if spacing.pieces.length ≤ 1024 then .ok (marks spacing.placed spacing.text.length)
        else .error (.stop .tooLong)) ∧
    ∀ (text : String) (c : Char) (position : Nat), scan text = .error (.unexpectedChar c position) →
      position < text.length ∧ text.toList[position]? = some c := by
  have hscan (spacing : Spacing) : scanFrom spacing.text.length maxTokens 0 spacing.text =
      if spacing.pieces.length ≤ 1024 then .ok spacing.placed else .error .tooLong :=
    scanFrom_pieces spacing.apart spacing.blank (Nat.le_refl _)
  refine ⟨fun spacing => ?_, fun spacing k piece h => placedFrom_written [] h,
    fun spacing => ?_, fun text c position h => ?_⟩
  · rw [scan, String.length_ofList, String.toList_ofList]
    exact hscan spacing
  · have hmarks : Careful.tokenize spacing.text (spacing.text.length + 1) 0 0 = _ :=
      tokenize_eq rfl (Nat.zero_le _) (Nat.le_refl _) (Nat.lt_succ_self _) (Nat.zero_add _)
    rw [List.drop_zero, hscan] at hmarks
    rw [hmarks]
    by_cases hfew : spacing.pieces.length ≤ 1024
    · simp only [hfew, if_true]
    · simp only [hfew, if_false]
  · have hfound := scanFrom_unexpected (List.drop_zero) h
    refine ⟨?_, hfound⟩
    rw [← String.length_toList]
    exact (List.getElem?_eq_some_iff.1 hfound).1

/-- Numbers with a point behind and before them next to each other, a name that ends in a digit, and white
space of two kinds. -/
def crowded : Spacing where
  pieces := [
    ⟨[' '], List.all_eq_true.1 rfl, .numeral "1.".toList (by decide)⟩,
    ⟨[], List.all_eq_true.1 rfl, .numeral ".5".toList (by decide)⟩,
    ⟨[], List.all_eq_true.1 rfl, .name "x2" ⟨'x', ['2'], rfl, rfl, List.all_eq_true.1 rfl⟩⟩,
    ⟨['\u00a0'], List.all_eq_true.1 rfl, .numeral "3".toList (by decide)⟩,
    ⟨[], List.all_eq_true.1 rfl, .symbol .closing ')' rfl⟩]
  apart := by
    refine .cons_cons ?_ (.cons_cons ?_ (.cons_cons ?_ (.cons_cons ?_ (.singleton _))))
    · rintro ⟨c, more, htext, hextends⟩
      cases htext
      exact absurd (Lexeme.extends_numeral_iff.1 hextends) (by decide)
    · rintro ⟨c, more, htext, hextends⟩
      cases htext
      exact absurd (Lexeme.extends_numeral_iff.1 hextends) (by decide)
    · exact fun _ => by decide
    · rintro ⟨c, more, htext, hextends⟩
      cases htext
      exact absurd (Lexeme.extends_numeral_iff.1 hextends) (by decide)
  tail := ['\u3000']
  blank := List.all_eq_true.1 rfl

theorem crowded_scanned :
    scan " 1..5x2\u00a03)\u3000" = .ok crowded.placed ∧
    crowded.placed.map Placed.position = [1, 3, 5, 8, 9] ∧
    Careful.tokenize crowded.text 12 0 0 = .ok (marks crowded.placed 11) :=
  ⟨scan_any_spacing.1 crowded, rfl, scan_any_spacing.2.2.1 crowded⟩

end Microworlds.Proofs

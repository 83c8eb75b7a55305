import Microworlds.Proofs.Careful.Machine
import Microworlds.Proofs.Formula.Parsing

/-!
# Tokens by positions

The scanner of formulas as a machine runs it: a position goes through the characters of a text, and a
token is cut out of them between two positions. It comes to the same tokens and the same errors as the
running scanner, which takes the characters from a list, and it puts a mark behind the last token. A
position stands for the characters from there on.
-/

namespace Microworlds.Proofs

open Formula

/-- A token with its position, or the end of the text. -/
structure Mark where
  token : Option Token
  position : Nat

namespace Careful

/-- The first position from the given one on at which the character does not belong to a class. The
first number bounds the characters that are looked at. -/
def skip {ε : Type} (belongs : Char → Bool) (source : List Char) : Nat → Nat → Careful ε Nat
  | 0, _ => fail .endless
  | bound + 1, position =>
    match source[position]? with
    | none => .ok position
    | some c =>
      if belongs c then do skip belongs source bound (← increase source.length position)
      else .ok position

/-- The position behind a number, of which a point may have been seen already. -/
def skipNumber {ε : Type} (source : List Char) : Nat → Bool → Nat → Careful ε Nat
  | 0, _, _ => fail .endless
  | bound + 1, pointed, position =>
    match source[position]? with
    | none => .ok position
    | some c =>
      if (Text.digitValue? c).isSome then do
        skipNumber source bound pointed (← increase source.length position)
      else if c == '.' && !pointed then do
        skipNumber source bound true (← increase source.length position)
      else .ok position

/-- The token that begins with a character at a position, and the position behind it. -/
def tokenAt (source : List Char) (start : Nat) (c : Char) : Careful Formula.Error (Token × Nat) :=
  if (Text.digitValue? c).isSome || c == '.' then do
    let stop ← skipNumber source (source.length + 1) false start
    let text ← slice source start stop
    match Decimal.read? (String.ofList text) with
    | some x => return (.number x, stop)
    | none => throw (.stop (.unexpectedChar c start))
  else if Text.startsName c then do
    let stop ← skip Text.continuesName source (source.length + 1) start
    return (.name (String.ofList (← slice source start stop)), stop)
  else
    match symbol? c with
    | some token => do return (token, ← increase source.length start)
    | none => throw (.stop (.unexpectedChar c start))

/-- The marks from a position on, before which there are so many tokens. The first number bounds the
tokens. -/
def tokenize (source : List Char) : Nat → Nat → Nat → Careful Formula.Error (List Mark)
  | 0, _, _ => fail .endless
  | bound + 1, count, position => do
    let start ← skip Text.isBlank source (source.length + 1) position
    match source[start]? with
    | none => return [⟨none, start⟩]
    | some c =>
      let (token, next) ← tokenAt source start c
      if maxTokens < count + 1 then throw (.stop .tooLong)
      else return ⟨some token, start⟩ :: (← tokenize source bound (count + 1) next)

end Careful

open Careful

variable {ε : Type} {source : List Char}

/-! ### Positions and what stands behind them -/

section Positions

variable {α : Type} {values rest : List α} {position : Nat} {value : α}

lemma getElem?_of_drop (h : values.drop position = value :: rest) :
    values[position]? = some value := by
  rw [← List.head?_drop, h]
  rfl

lemma drop_succ_of_drop (h : values.drop position = value :: rest) :
    values.drop (position + 1) = rest := by
  rw [← List.tail_drop, h]
  rfl

lemma lt_of_drop (h : values.drop position = value :: rest) : position < values.length :=
  (List.getElem?_eq_some_iff.1 (getElem?_of_drop h)).1

lemma getElem?_of_drop_nil (h : values.drop position = []) : values[position]? = none := by
  rw [← List.head?_drop, h]
  rfl

end Positions

lemma skip_eq {belongs : Char → Bool} {rest : List Char} {position bound : Nat}
    (h : source.drop position = rest) (hbound : rest.length < bound) :
    (skip belongs source bound position : Careful ε Nat) =
      .ok (position + (rest.takeWhile belongs).length) := by
  induction rest generalizing position bound with
  | nil =>
    match bound, hbound with
    | bound + 1, _ => rw [skip, getElem?_of_drop_nil h]; rfl
  | cons c rest ih =>
    match bound, hbound with
    | bound + 1, hbound =>
      rw [skip, getElem?_of_drop h, List.takeWhile_cons]
      by_cases hc : belongs c
      · have hnext := ih (drop_succ_of_drop h) (Nat.lt_of_succ_lt_succ hbound)
        simp only [hc, if_true, increase_of_lt (lt_of_drop h), bind, Except.bind, hnext,
          List.length_cons, Except.ok.injEq]
        omega
      · simp [hc]

/-- The digits of a number with at most one point, if no point has been seen yet. -/
def numberRest (pointed : Bool) (cs : List Char) : List Char :=
  if pointed then (Decimal.digits cs).1 else (numberText cs).1

lemma numberRest_digit {c : Char} (hc : (Text.digitValue? c).isSome = true) (pointed : Bool)
    (rest : List Char) : numberRest pointed (c :: rest) = c :: numberRest pointed rest := by
  cases pointed with
  | true => simp [numberRest, Decimal.digits, List.span_eq_takeWhile_dropWhile, hc]
  | false =>
    simp only [numberRest, numberText, Decimal.digits, List.span_eq_takeWhile_dropWhile,
      List.takeWhile_cons, List.dropWhile_cons, hc, if_true, Bool.false_eq_true, if_false]
    split <;> rfl

lemma numberRest_point (pointed : Bool) (rest : List Char) :
    numberRest pointed ('.' :: rest) = if pointed then [] else '.' :: numberRest true rest := by
  have hpoint : (Text.digitValue? '.').isSome = false := by decide
  cases pointed <;>
    simp [numberRest, numberText, Decimal.digits, List.span_eq_takeWhile_dropWhile, hpoint]

lemma numberRest_other {c : Char} (hdigit : ¬ (Text.digitValue? c).isSome = true) (hpoint : c ≠ '.')
    (pointed : Bool) (rest : List Char) : numberRest pointed (c :: rest) = [] := by
  cases pointed <;>
    simp [numberRest, numberText, Decimal.digits, List.span_eq_takeWhile_dropWhile, hdigit, hpoint]

lemma skipNumber_eq {rest : List Char} {position bound : Nat} (pointed : Bool)
    (h : source.drop position = rest) (hbound : rest.length < bound) :
    (skipNumber source bound pointed position : Careful ε Nat) =
      .ok (position + (numberRest pointed rest).length) := by
  induction rest generalizing position bound pointed with
  | nil =>
    have hnone : numberRest pointed [] = [] := by cases pointed <;> rfl
    match bound, hbound with
    | bound + 1, _ => rw [skipNumber, getElem?_of_drop_nil h, hnone]; rfl
  | cons c rest ih =>
    match bound, hbound with
    | bound + 1, hbound =>
      have hrest := drop_succ_of_drop h
      have hlt := Nat.lt_of_succ_lt_succ hbound
      rw [skipNumber, getElem?_of_drop h]
      by_cases hdigit : (Text.digitValue? c).isSome = true
      · simp only [hdigit, if_true, increase_of_lt (lt_of_drop h), bind, Except.bind,
          ih pointed hrest hlt, numberRest_digit hdigit, List.length_cons, Except.ok.injEq]
        omega
      · by_cases hpoint : c = '.'
        · subst hpoint
          rw [numberRest_point]
          cases pointed with
          | true => simp [hdigit]
          | false =>
            simp only [hdigit, increase_of_lt (lt_of_drop h), bind, Except.bind, ih true hrest hlt,
              beq_self_eq_true, Bool.not_false, Bool.and_self, Bool.false_eq_true, if_false, if_true,
              List.length_cons, Except.ok.injEq]
            omega
        · simp [hdigit, hpoint, numberRest_other hdigit hpoint]

/-! ### Tokens -/

lemma span_parts (belongs : Char → Bool) (cs : List Char) :
    (cs.span belongs).1 ++ (cs.span belongs).2 = cs := by
  rw [List.span_eq_takeWhile_dropWhile]
  exact List.takeWhile_append_dropWhile

lemma numberText_append (cs : List Char) : (numberText cs).1 ++ (numberText cs).2 = cs := by
  have hwhole : (Decimal.digits cs).1 ++ (Decimal.digits cs).2 = cs := span_parts _ cs
  unfold numberText
  simp only
  split
  · next behind heq =>
    have hfraction : (Decimal.digits behind).1 ++ (Decimal.digits behind).2 = behind :=
      span_parts _ behind
    rw [heq] at hwhole
    simpa [hfraction] using hwhole
  · exact hwhole

lemma token?_split {c : Char} {rest after : List Char} {token : Token} {length : Nat}
    (h : token? c rest = some (token, length, after)) :
    ∃ piece, c :: rest = piece ++ after ∧ piece.length = length := by
  unfold token? at h
  split_ifs at h with hnumber hname
  · obtain ⟨x, -, hx⟩ := Option.map_eq_some_iff.1 h
    cases hx
    exact ⟨_, (numberText_append _).symm, rfl⟩
  · cases h
    exact ⟨c :: (rest.span Text.continuesName).1,
      congrArg (c :: ·) (span_parts Text.continuesName rest).symm, rfl⟩
  · obtain ⟨x, -, hx⟩ := Option.map_eq_some_iff.1 h
    cases hx
    exact ⟨[c], rfl, rfl⟩

lemma slice_piece {start : Nat} {piece after : List Char} (h : source.drop start = piece ++ after)
    (hstart : start ≤ source.length) :
    (slice source start (start + piece.length) : Careful ε (List Char)) = .ok piece := by
  have hlength := congrArg List.length h
  rw [List.length_drop, List.length_append] at hlength
  rw [slice_of_le (Nat.le_add_right _ _) (by omega), List.drop_take, h, Nat.add_sub_cancel_left,
    List.take_left' rfl]

lemma tokenAt_eq {start : Nat} {c : Char} {rest : List Char} (h : source.drop start = c :: rest) :
    tokenAt source start c =
      match token? c rest with
      | none => .error (.stop (.unexpectedChar c start))
      | some (token, length, _) => .ok (token, start + length) := by
  have hlt := lt_of_drop h
  have hlength : (c :: rest).length ≤ source.length := by
    rw [← h, List.length_drop]
    exact Nat.sub_le _ _
  unfold tokenAt token?
  split_ifs with hnumber hname
  · have hpiece := slice_piece (ε := Formula.Error) (h.trans (numberText_append _).symm)
      (Nat.le_of_lt hlt)
    rw [skipNumber_eq false h (Nat.lt_succ_of_le hlength)]
    simp only [numberRest, Bool.false_eq_true, if_false, bind, Except.bind, hpiece]
    cases Decimal.read? (String.ofList (numberText (c :: rest)).1) <;> rfl
  · have hc : Text.continuesName c = true := by simp [Text.continuesName, hname]
    have htake : (c :: rest).takeWhile Text.continuesName =
        c :: (rest.span Text.continuesName).1 := by
      rw [List.takeWhile_cons, if_pos hc, List.span_eq_takeWhile_dropWhile]
    have hpiece := slice_piece (ε := Formula.Error)
      (h.trans (List.takeWhile_append_dropWhile (p := Text.continuesName)).symm) (Nat.le_of_lt hlt)
    rw [htake] at hpiece
    rw [skip_eq h (Nat.lt_succ_of_le hlength), htake]
    simp only [bind, Except.bind, hpiece]
    rfl
  · cases symbol? c with
    | none => rfl
    | some token =>
      simp only [increase_of_lt hlt, bind, Except.bind]
      rfl

lemma skip_dark {position : Nat} {c : Char} {rest : List Char} (h : source.drop position = c :: rest)
    (hdark : ¬ Text.isBlank c = true) :
    (skip Text.isBlank source (source.length + 1) position : Careful ε Nat) = .ok position := by
  rw [skip, getElem?_of_drop h]
  simp [hdark]

lemma tokenize_blank {bound count position : Nat} {c : Char} {rest : List Char}
    (h : source.drop position = c :: rest) (hblank : Text.isBlank c = true) :
    tokenize source bound count position = tokenize source bound count (position + 1) := by
  match bound with
  | 0 => rfl
  | bound + 1 =>
    have hlength : (c :: rest).length < source.length + 1 := by
      rw [← h, List.length_drop]
      omega
    have hskip : (skip Text.isBlank source (source.length + 1) position : Careful Formula.Error Nat) =
        skip Text.isBlank source (source.length + 1) (position + 1) := by
      rw [skip_eq h hlength, skip_eq (drop_succ_of_drop h) (Nat.lt_of_succ_lt hlength),
        List.takeWhile_cons, if_pos hblank, List.length_cons]
      congr 1
      omega
    rw [tokenize, tokenize, hskip]

/-- Marks for tokens, and one for the end of a text of the given length. -/
def marks (tokens : List Placed) (length : Nat) : List Mark :=
  tokens.map (fun placed => ⟨some placed.token, placed.position⟩) ++ [⟨none, length⟩]

lemma tokenize_eq {left bound room count position : Nat} {cs : List Char}
    (h : source.drop position = cs) (hposition : position ≤ source.length)
    (hleft : cs.length ≤ left) (hbound : cs.length < bound) (hcount : count + room = maxTokens) :
    tokenize source bound count position =
      match scanFrom left room position cs with
      | .ok placed => .ok (marks placed source.length)
      | .error e => .error (.stop e) := by
  fun_induction scanFrom left room position cs generalizing bound count with
  | case1 left room position =>
    obtain ⟨bound, rfl⟩ := Nat.exists_eq_add_one_of_ne_zero (Nat.ne_zero_of_lt hbound)
    have hend : position = source.length := by
      have hlength := congrArg List.length h
      rw [List.length_drop, List.length_nil] at hlength
      omega
    rw [tokenize, skip_eq h (by simp)]
    simp only [List.takeWhile_nil, List.length_nil, Nat.add_zero, bind, Except.bind,
      getElem?_of_drop_nil h]
    rw [hend]
    rfl
  | case2 => cases hleft
  | case3 room position left c rest hblank ih =>
    rw [tokenize_blank h hblank]
    exact ih (drop_succ_of_drop h) (lt_of_drop h) (Nat.le_of_succ_le_succ hleft)
      (Nat.lt_of_succ_lt hbound) hcount
  | case4 room position left c rest hdark htoken =>
    obtain ⟨bound, rfl⟩ := Nat.exists_eq_add_one_of_ne_zero (Nat.ne_zero_of_lt hbound)
    rw [tokenize, skip_dark h hdark]
    simp only [bind, Except.bind, getElem?_of_drop h, tokenAt_eq h, htoken]
  | case5 left position c rest hdark token length after htoken =>
    obtain ⟨bound, rfl⟩ := Nat.exists_eq_add_one_of_ne_zero (Nat.ne_zero_of_lt hbound)
    rw [tokenize, skip_dark h hdark]
    simp only [bind, Except.bind, getElem?_of_drop h, tokenAt_eq h, htoken]
    rw [if_pos (by omega)]
    rfl
  | case6 left position c rest hdark token length after htoken room ih =>
    obtain ⟨bound, rfl⟩ := Nat.exists_eq_add_one_of_ne_zero (Nat.ne_zero_of_lt hbound)
    obtain ⟨piece, hpiece, hlength⟩ := token?_split htoken
    have hshorter := token?_length_le htoken
    rw [List.length_cons] at hleft hbound
    have hdrop : source.drop (position + length) = after := by
      rw [← List.drop_drop, h, hpiece, ← hlength, List.drop_left' rfl]
    have hstop : position + length ≤ source.length := by
      have htotal := congrArg List.length (h.trans hpiece)
      rw [List.length_drop, List.length_append] at htotal
      omega
    have hleft' : after.length ≤ left := by omega
    have hbound' : after.length < bound := by omega
    have hcount' : count + 1 + room = maxTokens := by omega
    have hmore := ih hdrop hstop hleft' hbound' hcount'
    rw [tokenize, skip_dark h hdark]
    simp only [bind, Except.bind, getElem?_of_drop h, tokenAt_eq h, htoken]
    rw [if_neg (by omega), hmore]
    cases scanFrom left room (position + length) after <;> rfl

end Microworlds.Proofs

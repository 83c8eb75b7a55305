import Microworlds.Proofs.Careful.Tokens

/-!
# Formulas by positions

The reader of formulas as a machine runs it: a cursor stands at a mark among the marks of a text, and
counts the levels that are open. It comes to the same formulas and the same errors as the running
readers, which take tokens from a list. A cursor stands for the tokens from its mark on, and the levels
that are still allowed and those that are open make up the greatest number of levels.
-/

namespace Microworlds.Proofs

open Formula
open Careful (ok_bind)

/-- Where a reader stands, and how many levels are open. -/
structure Cursor where
  position : Nat
  depth : Nat

/-- A reader of a part of a formula at a cursor, which also gives the cursor behind it. -/
abbrev CursorReader := Cursor → Careful Formula.Error (Formula × Cursor)

/-- The error of a mark that should not stand here. -/
def Mark.unexpected (mark : Mark) : Formula.Error :=
  match mark.token with
  | none => .unexpectedEnd
  | some token => .unexpectedToken token.describe mark.position

namespace Careful

variable (marks : List Mark)

/-- The mark at a position. The last mark is also that of all positions behind it. -/
def peek (position : Nat) : Careful Formula.Error Mark := do
  read marks (min position (← decrease marks.length 1))

def advance (cursor : Cursor) : Careful Formula.Error (Mark × Cursor) := do
  let mark ← peek marks cursor.position
  if cursor.position < marks.length then
    return (mark, { cursor with position := ← increase marks.length cursor.position })
  else return (mark, cursor)

/-- Goes on with a chain of operators and operands. The number bounds the operators. -/
def chain (operator? : Token → Option Operator) (operand : CursorReader) :
    Nat → Formula → CursorReader
  | 0, _, _ => fail .endless
  | bound + 1, left, cursor => do
    let mark ← peek marks cursor.position
    match mark.token.bind operator? with
    | none => return (left, cursor)
    | some operator =>
      let (_, cursor) ← advance marks cursor
      let (right, cursor) ← operand cursor
      chain operator? operand bound (.binary operator left right) cursor

def product (unary : CursorReader) : CursorReader := fun cursor => do
  let (left, cursor) ← unary cursor
  chain marks productOperator? unary marks.length left cursor

def sumOf (unary : CursorReader) : CursorReader := fun cursor => do
  let (left, cursor) ← product marks unary cursor
  chain marks sumOperator? (product marks unary) marks.length left cursor

def bracketed (unary : CursorReader) : CursorReader := fun cursor => do
  let (inner, cursor) ← sumOf marks unary cursor
  let mark ← peek marks cursor.position
  match mark.token with
  | some .closing =>
    let (_, cursor) ← advance marks cursor
    return (inner, cursor)
  | _ => throw (.stop mark.unexpected)

def primary (unary : CursorReader) : CursorReader := fun cursor => do
  let (mark, cursor) ← advance marks cursor
  match mark.token with
  | some (.number x) => return (.number x, cursor)
  | some .opening => bracketed marks unary cursor
  | some (.name name) =>
    let next ← peek marks cursor.position
    match next.token with
    | some .opening =>
      match Function.named? name with
      | none => throw (.stop (.unknownFunction name))
      | some function =>
        let (_, cursor) ← advance marks cursor
        let (argument, cursor) ← bracketed marks unary cursor
        return (.call function argument, cursor)
    | _ =>
      match constant? name with
      | some formula => return (formula, cursor)
      | none => throw (.stop (.unknownName name))
  | _ => throw (.stop mark.unexpected)

def power (unary : CursorReader) : CursorReader := fun cursor => do
  let (base, cursor) ← primary marks unary cursor
  let mark ← peek marks cursor.position
  match mark.token with
  | some .caret =>
    let (_, cursor) ← advance marks cursor
    let (exponent, cursor) ← unary cursor
    return (.binary .power base exponent, cursor)
  | _ => return (base, cursor)

def signed (unary : CursorReader) : CursorReader := fun cursor => do
  let mark ← peek marks cursor.position
  match mark.token with
  | some .minus =>
    let (_, cursor) ← advance marks cursor
    let (inner, cursor) ← unary cursor
    return (.negate inner, cursor)
  | some .plus =>
    let (_, cursor) ← advance marks cursor
    unary cursor
  | _ => power marks unary cursor

/-- A signed power one level deeper. The first number bounds the levels. -/
def unary : Nat → CursorReader
  | levels, cursor =>
    if maxDepth ≤ cursor.depth then throw (.stop .tooDeep)
    else
      match levels with
      | 0 => fail .endless
      | levels + 1 => do
        let opened ← increase maxDepth cursor.depth
        let (formula, cursor) ← signed marks (unary levels) { cursor with depth := opened }
        let closed ← decrease cursor.depth 1
        return (formula, { cursor with depth := closed })

def parse (text : String) : Careful Formula.Error Formula := do
  let marks ← tokenize text.toList (text.length + 1) 0 0
  let (formula, cursor) ← sumOf marks (unary marks maxDepth) ⟨0, 0⟩
  let mark ← peek marks cursor.position
  match mark.token with
  | none => return formula
  | some _ => throw (.stop mark.unexpected)

end Careful

/-! ### Cursors and the tokens behind them -/

/-- A result of a reader of tokens and one of a reader at a cursor that say the same. -/
inductive Alike (tokens : List Placed) (depth position : Nat) :
    Except Formula.Error (Formula × List Placed) → Careful Formula.Error (Formula × Cursor) → Prop
  | failed (e : Formula.Error) : Alike tokens depth position (.error e) (.error (.stop e))
  | read (formula : Formula) {rest : List Placed} (next : Nat) (hbehind : position ≤ next)
    (hnext : next ≤ tokens.length) (hrest : tokens.drop next = rest) :
    Alike tokens depth position (.ok (formula, rest)) (.ok (formula, ⟨next, depth⟩))

/-- Two readers that say the same wherever they begin. -/
def Accords (tokens : List Placed) (depth : Nat) (reader : PartReader) (careful : CursorReader) :
    Prop :=
  ∀ position rest, position ≤ tokens.length → tokens.drop position = rest →
    Alike tokens depth position (reader rest) (careful ⟨position, depth⟩)

variable {tokens : List Placed} {depth position length : Nat} {inner : PartReader}
  {careful : CursorReader}

lemma Alike.bind {result : Except Formula.Error (Formula × List Placed)}
    {watched : Careful Formula.Error (Formula × Cursor)}
    {f : Formula × List Placed → Except Formula.Error (Formula × List Placed)}
    {g : Formula × Cursor → Careful Formula.Error (Formula × Cursor)}
    (h : Alike tokens depth position result watched)
    (hmore : ∀ formula next rest, position ≤ next → next ≤ tokens.length → tokens.drop next = rest →
      Alike tokens depth position (f (formula, rest)) (g (formula, ⟨next, depth⟩))) :
    Alike tokens depth position (result >>= f) (watched >>= g) := by
  cases h with
  | failed e => exact .failed e
  | read formula next hbehind hnext hrest => exact hmore formula next _ hbehind hnext hrest

lemma Alike.earlier {start : Nat} {result : Except Formula.Error (Formula × List Placed)}
    {watched : Careful Formula.Error (Formula × Cursor)}
    (h : Alike tokens depth position result watched) (hstart : start ≤ position) :
    Alike tokens depth start result watched := by
  cases h with
  | failed e => exact .failed e
  | read formula next hbehind hnext hrest =>
    exact .read formula next (Nat.le_trans hstart hbehind) hnext hrest

/-- The mark in front of some tokens, which are the last ones of a text of the given length. -/
def frontMark (length : Nat) : List Placed → Mark
  | [] => ⟨none, length⟩
  | placed :: _ => ⟨some placed.token, placed.position⟩

lemma unexpected_frontMark (length : Nat) (rest : List Placed) :
    (frontMark length rest).unexpected = unexpected rest := by
  cases rest <;> rfl

lemma length_marks (tokens : List Placed) (length : Nat) :
    (marks tokens length).length = tokens.length + 1 := by
  simp [marks]

lemma drop_marks (hposition : position ≤ tokens.length) :
    (marks tokens length).drop position = marks (tokens.drop position) length := by
  unfold marks
  rw [List.drop_append_of_le_length (by simpa using hposition), List.map_drop]

lemma peek_eq {rest : List Placed} (hposition : position ≤ tokens.length)
    (hrest : tokens.drop position = rest) :
    Careful.peek (marks tokens length) position = .ok (frontMark length rest) := by
  have hread : (marks tokens length)[position]? = some (frontMark length rest) := by
    rw [← List.head?_drop, drop_marks hposition, hrest]
    cases rest <;> rfl
  unfold Careful.peek
  rw [length_marks, Careful.decrease_of_le (Nat.le_add_left 1 _)]
  change Careful.read (marks tokens length) (min position tokens.length) = _
  rw [Nat.min_eq_left hposition]
  exact Careful.read_of_some hread

lemma advance_eq {rest : List Placed} (hposition : position ≤ tokens.length)
    (hrest : tokens.drop position = rest) :
    Careful.advance (marks tokens length) ⟨position, depth⟩ =
      .ok (frontMark length rest, ⟨position + 1, depth⟩) := by
  have hlt : position < (marks tokens length).length := by
    rw [length_marks]
    exact Nat.lt_succ_of_le hposition
  unfold Careful.advance
  simp only [peek_eq hposition hrest, bind, Except.bind, hlt, if_true, Careful.increase_of_lt hlt]
  rfl

/-! ### The readers of parts -/

lemma chain_alike {operator? : Token → Option Operator} (hinner : Accords tokens depth inner careful)
    {bound turns : Nat} {rest : List Placed} (left : Formula) (hposition : position ≤ tokens.length)
    (hrest : tokens.drop position = rest) (hbound : rest.length ≤ bound)
    (hturns : rest.length < turns) :
    Alike tokens depth position (Formula.chain operator? inner bound left rest)
      (Careful.chain (marks tokens length) operator? careful turns left ⟨position, depth⟩) := by
  induction turns generalizing position bound rest left with
  | zero => cases hturns
  | succ turns ih =>
    rw [Careful.chain]
    simp only [peek_eq hposition hrest, ok_bind]
    match rest, bound with
    | [], 0 => exact .read left position (Nat.le_refl _) hposition hrest
    | [], bound + 1 => exact .read left position (Nat.le_refl _) hposition hrest
    | placed :: rest, bound + 1 =>
      rw [Formula.chain]
      simp only [frontMark, Option.bind_some]
      cases operator? placed.token with
      | none => exact .read left position (Nat.le_refl _) hposition hrest
      | some operator =>
        have hlt := lt_of_drop hrest
        have hnow := congrArg List.length (drop_succ_of_drop hrest)
        simp only [advance_eq hposition hrest, ok_bind]
        refine Alike.earlier (Alike.bind (hinner (position + 1) rest hlt (drop_succ_of_drop hrest))
          fun right next behind hbehind hnext hdrop => ?_) (Nat.le_succ position)
        have hlater := congrArg List.length hdrop
        rw [List.length_drop] at hnow hlater
        rw [List.length_cons] at hbound hturns
        exact (ih (.binary operator left right) hnext hdrop (by omega) (by omega)).earlier hbehind

variable (length)

lemma product_accords (hinner : Accords tokens depth inner careful) :
    Accords tokens depth (Formula.product inner) (Careful.product (marks tokens length) careful) := by
  intro position rest hposition hrest
  refine (hinner position rest hposition hrest).bind fun left next behind hbehind hnext hdrop => ?_
  refine (chain_alike hinner left hnext hdrop (Nat.le_refl _) ?_).earlier hbehind
  rw [length_marks, ← hdrop, List.length_drop]
  omega

lemma sum_accords (hinner : Accords tokens depth inner careful) :
    Accords tokens depth (Formula.sum inner) (Careful.sumOf (marks tokens length) careful) := by
  intro position rest hposition hrest
  refine (product_accords length hinner position rest hposition hrest).bind
    fun left next behind hbehind hnext hdrop => ?_
  refine Alike.earlier ?_ hbehind
  refine chain_alike (product_accords length hinner) left hnext hdrop (Nat.le_refl _) ?_
  rw [length_marks, ← hdrop, List.length_drop]
  omega

lemma bracketed_accords (hinner : Accords tokens depth inner careful) :
    Accords tokens depth (Formula.bracketed inner)
      (Careful.bracketed (marks tokens length) careful) := by
  intro position rest hposition hrest
  refine (sum_accords length hinner position rest hposition hrest).bind
    fun formula next behind hbehind hnext hdrop => ?_
  simp only [peek_eq hnext hdrop, advance_eq hnext hdrop, ok_bind, unexpected_frontMark]
  match behind, hdrop with
  | [], hdrop => exact .failed _
  | ⟨token, place⟩ :: behind, hdrop =>
    cases token with
    | closing =>
      exact .read formula (next + 1) (Nat.le_succ_of_le hbehind) (lt_of_drop hdrop)
        (drop_succ_of_drop hdrop)
    | _ => exact .failed _

lemma primary_accords (hinner : Accords tokens depth inner careful) :
    Accords tokens depth (Formula.primary inner) (Careful.primary (marks tokens length) careful) := by
  intro position rest hposition hrest
  unfold Careful.primary
  simp only [advance_eq hposition hrest, ok_bind, unexpected_frontMark]
  match rest, hrest with
  | [], hrest => exact .failed _
  | ⟨token, place⟩ :: rest, hrest =>
    have hlt := lt_of_drop hrest
    have hbehind := drop_succ_of_drop hrest
    cases token with
    | number x => exact .read (.number x) (position + 1) (Nat.le_succ _) hlt hbehind
    | opening =>
      exact (bracketed_accords length hinner (position + 1) rest hlt hbehind).earlier (Nat.le_succ _)
    | name name =>
      simp only [frontMark, peek_eq hlt hbehind, advance_eq hlt hbehind, ok_bind]
      -- A name that no bracket follows stands for itself, whatever does follow it.
      have hconstant : Alike tokens depth position
          (match constant? name with
            | some formula => .ok (formula, rest)
            | none => .error (.unknownName name))
          (match constant? name with
            | some formula => .ok (formula, ⟨position + 1, depth⟩)
            | none => .error (.stop (.unknownName name))) := by
        cases constant? name with
        | some formula => exact .read formula (position + 1) (Nat.le_succ _) hlt hbehind
        | none => exact .failed _
      match rest, hbehind with
      | [], hbehind => exact hconstant
      | ⟨next, place⟩ :: argument, hbehind =>
        cases next with
        | opening =>
          rw [Formula.primary]
          cases Function.named? name with
          | none => exact .failed _
          | some function =>
            have hopened := lt_of_drop hbehind
            have hargument := drop_succ_of_drop hbehind
            refine Alike.earlier (Alike.bind (bracketed_accords length hinner
              (position + 1 + 1) argument hopened hargument)
              fun formula last behind hlast hnext hdrop => ?_)
              (Nat.le_trans (Nat.le_succ _) (Nat.le_succ _))
            exact .read _ last hlast hnext hdrop
        | _ => exact hconstant
    | _ => exact .failed _

lemma power_accords (hinner : Accords tokens depth inner careful) :
    Accords tokens depth (Formula.power inner) (Careful.power (marks tokens length) careful) := by
  intro position rest hposition hrest
  refine (primary_accords length hinner position rest hposition hrest).bind
    fun base next behind hbehind hnext hdrop => ?_
  simp only [peek_eq hnext hdrop, advance_eq hnext hdrop, ok_bind]
  match behind, hdrop with
  | [], hdrop => exact .read base next hbehind hnext hdrop
  | ⟨token, place⟩ :: behind, hdrop =>
    cases token with
    | caret =>
      refine Alike.earlier (Alike.bind (hinner (next + 1) behind (lt_of_drop hdrop)
        (drop_succ_of_drop hdrop)) fun exponent last rest hlast hend hafter => ?_)
        (Nat.le_succ_of_le hbehind)
      exact .read _ last hlast hend hafter
    | _ => exact .read base next hbehind hnext hdrop

/-- A sign, and what it stands before; without a sign, a power. -/
def signedTokens (inner : PartReader) : PartReader
  | ⟨.minus, _⟩ :: rest => do
    let (formula, rest) ← inner rest
    return (.negate formula, rest)
  | ⟨.plus, _⟩ :: rest => inner rest
  | tokens => Formula.power inner tokens

lemma signed_accords (hinner : Accords tokens depth inner careful) :
    Accords tokens depth (signedTokens inner) (Careful.signed (marks tokens length) careful) := by
  intro position rest hposition hrest
  have hpower := power_accords length hinner position rest hposition hrest
  unfold Careful.signed
  simp only [peek_eq hposition hrest, advance_eq hposition hrest, ok_bind]
  match rest, hrest with
  | [], hrest => exact hpower
  | ⟨token, place⟩ :: rest, hrest =>
    have hlt := lt_of_drop hrest
    have hbehind := drop_succ_of_drop hrest
    cases token with
    | minus =>
      refine Alike.earlier (Alike.bind (hinner (position + 1) rest hlt hbehind)
        fun formula next behind hnext hend hdrop => ?_) (Nat.le_succ _)
      exact .read _ next hnext hend hdrop
    | plus => exact (hinner (position + 1) rest hlt hbehind).earlier (Nat.le_succ _)
    | _ => exact hpower

/-- The levels that are open and those that are left make up all levels, so that the readers refuse
another one at the same time. What is opened is closed again. -/
lemma unary_accords {levels : Nat} (hlevels : depth + levels = maxDepth) :
    Accords tokens depth (Formula.unary levels) (Careful.unary (marks tokens length) levels) := by
  induction levels generalizing depth with
  | zero =>
    intro position rest hposition hrest
    unfold Careful.unary
    rw [if_pos (by simp only; omega)]
    exact .failed _
  | succ levels ih =>
    intro position rest hposition hrest
    have hlt : depth < maxDepth := by omega
    have hinner : Accords tokens (depth + 1) (Formula.unary levels)
        (Careful.unary (marks tokens length) levels) :=
      ih (by omega)
    have hsigned := signed_accords length hinner position rest hposition hrest
    have hunary : Formula.unary (levels + 1) rest = signedTokens (Formula.unary levels) rest := by
      unfold Formula.unary signedTokens
      rfl
    unfold Careful.unary
    rw [if_neg (by simp only; omega), hunary]
    simp only [Careful.increase_of_lt hlt, ok_bind]
    generalize signedTokens (Formula.unary levels) rest = result at hsigned ⊢
    generalize Careful.signed _ _ _ = watched at hsigned ⊢
    cases hsigned with
    | failed e => exact .failed e
    | read formula next hbehind hnext hdrop =>
      simp only [ok_bind, Careful.decrease_of_le (Nat.le_add_left 1 depth)]
      exact .read formula next hbehind hnext hdrop

lemma parse_eq (text : String) : Careful.parse text = Careful.guarded (Formula.parse text) := by
  have hlength : text.toList.length = text.length := String.length_toList
  have hroom : 0 + maxTokens = maxTokens := Nat.zero_add _
  have htokens := tokenize_eq text.toList.drop_zero (Nat.zero_le _) (Nat.le_of_eq hlength)
    (Nat.lt_add_one_of_le (Nat.le_of_eq hlength)) hroom
  unfold Careful.parse Formula.parse scan
  rw [htokens]
  cases scanFrom text.length maxTokens 0 text.toList with
  | error e => rfl
  | ok tokens =>
    have hunary : Accords tokens 0 (Formula.unary maxDepth)
        (Careful.unary (marks tokens text.toList.length) maxDepth) :=
      unary_accords _ (Nat.zero_add maxDepth)
    have hsum := sum_accords text.toList.length hunary 0 tokens (Nat.zero_le _) rfl
    simp only [ok_bind]
    change _ = Careful.guarded (ofTokens tokens)
    unfold ofTokens
    generalize Formula.sum (Formula.unary maxDepth) tokens = result at hsum ⊢
    generalize Careful.sumOf _ _ _ = watched at hsum ⊢
    cases hsum with
    | failed e => rfl
    | @read formula rest next hbehind hnext hdrop =>
      simp only [ok_bind, peek_eq hnext hdrop, unexpected_frontMark]
      cases rest <;> rfl

end Microworlds.Proofs

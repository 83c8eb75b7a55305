import Microworlds.Proofs.Formula.Descent

/-!
# The machine reads what the readers read

A configuration of the machine stands for what the readers of formulas would still do from there on. No step
changes what it stands for, so that the machine stops with what the readers give. With that, the laws of its
runs are laws of the readers: each formula that is read has no more nodes than tokens, and its value is worked
out without going deeper than that.
-/

namespace Microworlds.Proofs

open Formula

/-- The value of a formula, if no more than a number of formulas are worked out inside of each other. -/
def valueWithin : Nat → Option Float → Formula → Option (Except Formula.Error Float)
  | 0, _, _ => none
  | bound + 1, x, formula =>
    match formula with
    | .number _ | .unknown => some (formula.value x)
    | .negate inner => (valueWithin bound x inner).map fun result => result.map fun v => -v
    | .call function argument => (valueWithin bound x argument).map fun result => result.map function.apply
    | .binary operator left right => do
      match ← valueWithin bound x left with
      | .error e => return .error e
      | .ok l => (valueWithin bound x right).map fun result => result.bind (operator.apply l)

lemma exists_of_nodes_le {formula : Formula} {bound : Nat} (h : nodes formula ≤ bound) :
    ∃ below, bound = below + 1 := by
  have hpos : 0 < nodes formula := by cases formula <;> exact Nat.succ_pos _
  exact ⟨bound - 1, by omega⟩

lemma valueWithin_eq {formula : Formula} {bound : Nat} (h : nodes formula ≤ bound) (x : Option Float) :
    valueWithin bound x formula = some (formula.value x) := by
  induction formula generalizing bound with
  | number =>
    obtain ⟨bound, rfl⟩ := exists_of_nodes_le h
    rfl
  | unknown =>
    obtain ⟨bound, rfl⟩ := exists_of_nodes_le h
    rfl
  | negate inner ih =>
    obtain ⟨bound, rfl⟩ := exists_of_nodes_le h
    rw [valueWithin]
    simp only [ih (Nat.le_of_succ_le_succ h), Option.map_some, value]
  | binary operator left right ihleft ihright =>
    obtain ⟨bound, rfl⟩ := exists_of_nodes_le h
    simp only [nodes] at h
    rw [valueWithin]
    simp only [ihleft (by omega : nodes left ≤ bound), ihright (by omega : nodes right ≤ bound),
      Option.bind_eq_bind, Option.bind_some, Option.map_some, value]
    cases left.value x with
    | error e => rfl
    | ok l => rfl
  | call function argument ih =>
    obtain ⟨bound, rfl⟩ := exists_of_nodes_le h
    rw [valueWithin]
    simp only [ih (Nat.le_of_succ_le_succ h), Option.map_some, value]

namespace Descent

/-- The marks of tokens, and of the end of a text. -/
def Source.of (tokens : List Placed) (stop : Nat) : Source :=
  ⟨tokens.map fun placed => ⟨some placed.token, placed.position⟩, stop⟩

/-- What is said about a text when the machine has stopped: nothing may stand behind the formula. -/
def Source.verdict (source : Source) (result : Except Formula.Error Formula) (cursor : Cursor) :
    Except Formula.Error Formula := do
  let formula ← result
  match (source.peek cursor.position).token with
  | none => return formula
  | some _ => throw (source.peek cursor.position).unexpected

/-! ### What configurations stand for -/

/-- The reader of a routine, given the one of signed powers one level further in. -/
def Routine.reader (inner : PartReader) : Routine → PartReader
  | primary => Formula.primary inner
  | power => Formula.power inner
  | signed => signedTokens inner
  | unary => inner
  | chain .product => Formula.product inner
  | chain .sum => Formula.sum inner

/-- What stands in front of a closing bracket. -/
def closed (wrap : Formula → Formula) :
    Formula × List Placed → Except Formula.Error (Formula × List Placed)
  | (formula, ⟨.closing, _⟩ :: rest) => .ok (wrap formula, rest)
  | (_, rest) => .error (unexpected rest)

/-- What the readers do with a formula and the tokens behind it. -/
def Pending.goesOn (inner : PartReader) :
    Pending → Formula × List Placed → Except Formula.Error (Formula × List Placed)
  | first kind, (left, rest) =>
    Formula.chain kind.operator? (kind.operand.reader inner) rest.length left rest
  | operand kind operator left, (right, rest) =>
    Formula.chain kind.operator? (kind.operand.reader inner) rest.length (.binary operator left right) rest
  | level, found | same, found => .ok found
  | negated, (formula, rest) => .ok (.negate formula, rest)
  | base, (left, rest) =>
    match rest with
    | ⟨.caret, _⟩ :: rest => do
      let (right, rest) ← inner rest
      return (.binary .power left right, rest)
    | rest => .ok (left, rest)
  | exponent left, (right, rest) => .ok (.binary .power left right, rest)
  | group, found => closed id found
  | argument function, found => closed (.call function) found

/-- The reader of signed powers where so many levels are open. -/
def readerAt (depth : Nat) : PartReader :=
  Formula.unary (maxDepth - depth)

variable (tokens : List Placed)

/-- What an activation stands for by what it does, where so many levels were open when it was entered. -/
def actMeaning (depth : Nat) : Action × Cursor → Except Formula.Error (Formula × List Placed)
  | (.leave result, cursor) => result.map fun formula => (formula, tokens.drop cursor.position)
  | (.enter routine pending, cursor) =>
    routine.reader (readerAt cursor.depth) (tokens.drop cursor.position) >>=
      pending.goesOn (readerAt depth)

/-- What the waiting activations make of what is found. -/
def finish : List Waiting → Except Formula.Error (Formula × List Placed) →
    Except Formula.Error (Formula × List Placed)
  | [], found => found
  | outer :: waiting, found =>
    finish waiting (found >>= outer.pending.goesOn (readerAt outer.entered.depth))

/-- What a configuration stands for. -/
def meaning : Config → Except Formula.Error (Formula × List Placed)
  | .entering now waiting =>
    finish waiting (now.routine.reader (readerAt now.entered.depth) (tokens.drop now.entered.position))
  | .leaving _ result cursor waiting =>
    finish waiting (result.map fun formula => (formula, tokens.drop cursor.position))

variable {tokens} {stop : Nat} {cursor : Cursor}

lemma peek_of (tokens : List Placed) (stop position : Nat) :
    (Source.of tokens stop).peek position = frontMark stop (tokens.drop position) := by
  rw [Source.peek, Source.of, List.getElem?_map, ← List.head?_drop]
  cases tokens.drop position <;> rfl

lemma advance_of {placed : Placed} {rest : List Placed}
    (h : tokens.drop cursor.position = placed :: rest) :
    (Source.of tokens stop).advance cursor = { cursor with position := cursor.position + 1 } := by
  have hlt := lt_of_drop h
  rw [Source.advance, if_pos]
  rw [Source.length, Source.of, List.length_map]
  exact Nat.lt_succ_of_lt hlt

lemma meaning_acts (now : Activation) (waiting : List Waiting) (act : Action × Cursor) :
    meaning tokens (now.acts waiting act) = finish waiting (actMeaning tokens now.entered.depth act) := by
  obtain ⟨action, cursor⟩ := act
  cases action <;> rfl

/-! ### Chains -/

lemma chain_enough {operator? : Token → Option Operator} {operand : PartReader}
    (hoperand : ∀ tokens formula rest, operand tokens = .ok (formula, rest) → rest.length ≤ tokens.length)
    {bound other : Nat} {left : Formula} {rest : List Placed} (hbound : rest.length ≤ bound)
    (hother : rest.length ≤ other) :
    Formula.chain operator? operand bound left rest = Formula.chain operator? operand other left rest := by
  induction bound generalizing other left rest with
  | zero =>
    obtain rfl := List.eq_nil_of_length_eq_zero (Nat.le_zero.1 hbound)
    cases other <;> rfl
  | succ bound ih =>
    match rest, other, hother with
    | [], 0, _ => rfl
    | [], other + 1, _ => rfl
    | placed :: rest, other + 1, hother =>
      rw [Formula.chain, Formula.chain]
      cases operator? placed.token with
      | none => rfl
      | some operator =>
        simp only
        cases hread : operand rest with
        | error e => rfl
        | ok found =>
          have hshorter := hoperand _ _ _ hread
          exact ih (Nat.le_trans hshorter (Nat.le_of_succ_le_succ hbound))
            (Nat.le_trans hshorter (Nat.le_of_succ_le_succ hother))

lemma TakesDerived.length_le {part : Part} {tree : Derivation part → Formula} {bound : Nat}
    {reader : PartReader} (h : TakesDerived part tree bound reader) (tokens : List Placed)
    (formula : Formula) (rest : List Placed) (hread : reader tokens = .ok (formula, rest)) :
    rest.length ≤ tokens.length := by
  obtain ⟨d, htokens, -⟩ := h _ _ _ hread
  have hlength := congrArg List.length htokens
  rw [List.length_append, length_bare, length_bare] at hlength
  omega

lemma operand_length_le (kind : Chain) (depth : Nat) :
    ∀ tokens formula rest, kind.operand.reader (readerAt depth) tokens = .ok (formula, rest) →
      rest.length ≤ tokens.length :=
  match kind with
  | .product => TakesDerived.length_le (unary_takesDerived _)
  | .sum => TakesDerived.length_le (product_takesDerived (unary_takesDerived _))

/-! ### What is done does not change what is stood for -/

section Meanings

variable {depth : Nat} (hdepth : cursor.depth = depth)

include hdepth

lemma goOn_meaning (kind : Chain) (left : Formula) :
    actMeaning tokens depth (goOn (Source.of tokens stop) kind left cursor) =
      (Pending.first kind).goesOn (readerAt depth) (left, tokens.drop cursor.position) := by
  unfold goOn
  rw [peek_of]
  cases hrest : tokens.drop cursor.position with
  | nil => simp only [frontMark, Option.bind_none, actMeaning, hrest]; rfl
  | cons placed rest =>
    simp only [frontMark, Option.bind_some, Pending.goesOn, List.length_cons, Formula.chain]
    cases kind.operator? placed.token with
    | none => simp only [actMeaning, hrest]; rfl
    | some operator =>
      simp only [actMeaning, advance_of hrest, drop_succ_of_drop hrest, hdepth]
      cases hread : kind.operand.reader (readerAt depth) rest with
      | error e => rfl
      | ok found =>
        exact chain_enough (operand_length_le kind depth) (Nat.le_refl _)
          (operand_length_le kind depth _ _ _ hread)

lemma raise_meaning (base : Formula) :
    actMeaning tokens depth (raise (Source.of tokens stop) base cursor) =
      Pending.base.goesOn (readerAt depth) (base, tokens.drop cursor.position) := by
  unfold raise
  rw [peek_of]
  cases hrest : tokens.drop cursor.position with
  | nil => simp only [frontMark, actMeaning, hrest]; rfl
  | cons placed rest =>
    obtain ⟨token, position⟩ := placed
    cases token with
    | caret => simp only [frontMark, actMeaning, advance_of hrest, drop_succ_of_drop hrest, hdepth]; rfl
    | _ => simp only [frontMark, actMeaning, hrest]; rfl

omit hdepth in
lemma close_meaning (wrap : Formula → Formula) (formula : Formula) :
    actMeaning tokens depth (close (Source.of tokens stop) (wrap formula) cursor) =
      closed wrap (formula, tokens.drop cursor.position) := by
  unfold close
  rw [peek_of]
  cases hrest : tokens.drop cursor.position with
  | nil => rfl
  | cons placed rest =>
    obtain ⟨token, position⟩ := placed
    cases token with
    | closing => simp only [frontMark, actMeaning, advance_of hrest, drop_succ_of_drop hrest]; rfl
    | _ => rfl

end Meanings

lemma bracketed_eq (inner : PartReader) (wrap : Formula → Formula) (tokens : List Placed) :
    (Formula.bracketed inner tokens >>= fun found => .ok (wrap found.1, found.2)) =
      Formula.sum inner tokens >>= closed wrap := by
  unfold Formula.bracketed
  cases Formula.sum inner tokens with
  | error e => rfl
  | ok found =>
    obtain ⟨formula, rest⟩ := found
    match rest with
    | [] => rfl
    | ⟨token, _⟩ :: _ => cases token <;> rfl

lemma bind_ok {α ε : Type} (found : Except ε α) : (found >>= fun value => .ok value) = found := by
  cases found <;> rfl

lemma constant_meaning {rest : List Placed} (hrest : tokens.drop cursor.position = rest) (depth : Nat)
    (name : String) :
    actMeaning tokens depth
        (match constant? name with
          | none => (.leave (.error (.unknownName name)), cursor)
          | some formula => (.leave (.ok formula), cursor)) =
      match constant? name with
        | some formula => .ok (formula, rest)
        | none => .error (.unknownName name) := by
  cases constant? name with
  | none => rfl
  | some formula => rw [← hrest]; rfl

lemma named_meaning {depth : Nat} (hdepth : cursor.depth = depth) {name : String} (position : Nat)
    {rest : List Placed} (hrest : tokens.drop cursor.position = rest) :
    actMeaning tokens depth (named (Source.of tokens stop) name cursor) =
      Formula.primary (readerAt depth) (⟨.name name, position⟩ :: rest) := by
  have hconstant := constant_meaning hrest depth name
  unfold named
  rw [peek_of, hrest]
  cases rest with
  | nil => exact hconstant
  | cons placed argument =>
    obtain ⟨token, place⟩ := placed
    cases token with
    | opening =>
      simp only [frontMark, Formula.primary]
      cases Function.named? name with
      | none => rfl
      | some function =>
        simp only [actMeaning, advance_of hrest, drop_succ_of_drop hrest, hdepth]
        exact (bracketed_eq (readerAt depth) (.call function) argument).symm
    | _ => exact hconstant

lemma power_meaning (entered : Cursor) :
    actMeaning tokens entered.depth (start (Source.of tokens stop) .power entered) =
      Formula.power (readerAt entered.depth) (tokens.drop entered.position) := by
  change Formula.primary _ _ >>= Pending.base.goesOn _ = Formula.power _ _
  unfold Formula.power
  cases Formula.primary (readerAt entered.depth) (tokens.drop entered.position) with
  | error e => rfl
  | ok found =>
    obtain ⟨base, rest⟩ := found
    cases rest with
    | nil => rfl
    | cons placed rest =>
      obtain ⟨token, position⟩ := placed
      cases token <;> rfl

lemma unary_meaning (entered : Cursor) :
    actMeaning tokens entered.depth (start (Source.of tokens stop) .unary entered) =
      readerAt entered.depth (tokens.drop entered.position) := by
  unfold start
  simp only
  split
  · next hdeep =>
    simp only [actMeaning, readerAt, Nat.sub_eq_zero_of_le hdeep]
    rfl
  · next hshallow =>
    have hlevels : maxDepth - entered.depth = maxDepth - (entered.depth + 1) + 1 := by omega
    simp only [actMeaning, Routine.reader, readerAt, hlevels]
    exact bind_ok _

lemma signed_meaning (entered : Cursor) :
    actMeaning tokens entered.depth (start (Source.of tokens stop) .signed entered) =
      signedTokens (readerAt entered.depth) (tokens.drop entered.position) := by
  unfold start
  rw [peek_of]
  cases hrest : tokens.drop entered.position with
  | nil =>
    simp only [frontMark, actMeaning, hrest]
    exact bind_ok _
  | cons placed rest =>
    obtain ⟨token, position⟩ := placed
    cases token with
    | minus =>
      simp only [frontMark, actMeaning, advance_of hrest, drop_succ_of_drop hrest]
      rfl
    | plus =>
      simp only [frontMark, actMeaning, advance_of hrest, drop_succ_of_drop hrest]
      exact bind_ok _
    | _ =>
      simp only [frontMark, actMeaning, hrest]
      exact bind_ok _

lemma primary_meaning (entered : Cursor) :
    actMeaning tokens entered.depth (start (Source.of tokens stop) .primary entered) =
      Formula.primary (readerAt entered.depth) (tokens.drop entered.position) := by
  unfold start
  rw [peek_of]
  cases hrest : tokens.drop entered.position with
  | nil => rfl
  | cons placed rest =>
    obtain ⟨token, position⟩ := placed
    have hbehind := drop_succ_of_drop hrest
    cases token with
    | number x =>
      simp only [frontMark, actMeaning, advance_of hrest, hbehind]
      rfl
    | opening =>
      simp only [frontMark, actMeaning, advance_of hrest, hbehind]
      have hgroup := bracketed_eq (readerAt entered.depth) id rest
      exact hgroup.symm.trans (bind_ok _)
    | name name =>
      simp only [frontMark, advance_of hrest]
      exact named_meaning rfl position hbehind
    | _ => rfl

lemma start_meaning (routine : Routine) (entered : Cursor) :
    actMeaning tokens entered.depth (start (Source.of tokens stop) routine entered) =
      routine.reader (readerAt entered.depth) (tokens.drop entered.position) := by
  cases routine with
  | chain kind => cases kind <;> rfl
  | power => exact power_meaning entered
  | unary => exact unary_meaning entered
  | signed => exact signed_meaning entered
  | primary => exact primary_meaning entered

lemma resume_meaning {depth : Nat} (pending : Pending) (result : Except Formula.Error Formula)
    (hdepth : cursor.depth = depth + pending.levels) :
    actMeaning tokens depth (resume (Source.of tokens stop) pending result cursor) =
      (result.map fun formula => (formula, tokens.drop cursor.position)) >>=
        pending.goesOn (readerAt depth) := by
  cases result with
  | error e => cases pending <;> rfl
  | ok formula =>
    cases pending with
    | level => rfl
    | first kind => exact goOn_meaning hdepth kind formula
    | operand kind operator left => exact goOn_meaning hdepth kind (.binary operator left formula)
    | negated => rfl
    | same => rfl
    | base => exact raise_meaning hdepth formula
    | exponent base => rfl
    | group => exact close_meaning id formula
    | argument function => exact close_meaning (.call function) formula

lemma step_meaning {config after : Config} (h : Sound (Source.of tokens stop) config)
    (hstep : step (Source.of tokens stop) config = some after) :
    meaning tokens after = meaning tokens config := by
  cases config with
  | entering now waiting =>
    cases hstep
    rw [meaning_acts, start_meaning]
    rfl
  | leaving now result cursor waiting =>
    cases waiting with
    | nil => cases hstep
    | cons outer waiting =>
      cases hstep
      obtain ⟨⟨hsupports, -⟩, hleft⟩ := h
      rw [meaning_acts, resume_meaning _ _ (hleft.closed.trans hsupports.opened)]
      rfl

lemma run_meaning {first : Config} (h : Sound (Source.of tokens stop) first) (steps : Nat) :
    meaning tokens (run (Source.of tokens stop) steps first) = meaning tokens first := by
  induction steps with
  | zero => rfl
  | succ steps ih =>
    rw [run_succ, ← ih]
    cases hstep : step (Source.of tokens stop) (run (Source.of tokens stop) steps first) with
    | none => rw [next_of_none hstep]
    | some after =>
      rw [next_of_some hstep]
      exact step_meaning (run_sound h steps).1 hstep

lemma run_ofTokens (tokens : List Placed) (stop : Nat) :
    ∃ steps result cursor,
      run (.of tokens stop) steps (.start (.chain .sum) ⟨0, 0⟩) =
        .leaving ⟨.chain .sum, ⟨0, 0⟩⟩ result cursor [] ∧
      ofTokens tokens = (Source.of tokens stop).verdict result cursor := by
  obtain ⟨steps, -, result, cursor, hlast⟩ := run_leaves (.of tokens stop) (.chain .sum) ⟨0, 0⟩
  have hread : Formula.sum (Formula.unary maxDepth) tokens =
      result.map fun formula => (formula, tokens.drop cursor.position) := by
    have hmeaning : meaning tokens _ = meaning tokens (.start (.chain .sum) ⟨0, 0⟩) :=
      run_meaning (sound_start (.of tokens stop) _ _) steps
    rw [hlast] at hmeaning
    exact hmeaning.symm
  refine ⟨steps, result, cursor, hlast, ?_⟩
  unfold ofTokens Source.verdict
  rw [hread, peek_of]
  cases result with
  | error e => rfl
  | ok formula =>
    simp only [Except.map]
    cases tokens.drop cursor.position <;> rfl

/-- `-x`, whose sign opens a level of its own. -/
example : run (.of [⟨.minus, 0⟩, ⟨.name "x", 1⟩] 2) 20 (.start (.chain .sum) ⟨0, 0⟩) =
    .leaving ⟨.chain .sum, ⟨0, 0⟩⟩ (.ok (.negate .unknown)) ⟨2, 0⟩ [] := rfl

end Descent

open Descent

lemma nodes_le_of_ofTokens {tokens : List Placed} {formula : Formula}
    (h : ofTokens tokens = .ok formula) : nodes formula ≤ tokens.length := by
  obtain ⟨steps, result, cursor, hlast, hverdict⟩ := run_ofTokens tokens 0
  rw [h] at hverdict
  cases result with
  | error e => cases hverdict
  | ok read =>
    obtain ⟨hnodes, hfront⟩ := (run_left hlast).taken read rfl
    have hread : read = formula := by
      obtain ⟨_, ⟨⟩, hend⟩ := bind_eq_ok.1 hverdict.symm
      split at hend
      · exact Except.ok.inj hend
      · cases hend
    rw [Source.of, List.length_map] at hfront
    rw [← hread]
    omega

/-- Reading a formula comes to an end, with no more nodes than tokens. For any marks of which the last is
an end, and whatever routine is entered wherever with any number of levels open: the machine leaves the
routine again within a number of steps that grows with the number of marks; its position never goes down; an
activation inside of another one was entered behind a token that the outer one had not taken, or at the same
token for a lower part of the grammar; whichever activation is left, by a formula or by an error, as many
levels are open as when it was entered; and a formula has at most as many nodes as tokens were taken for it,
none of them the last end. For the tokens of a text it comes to the formula or the error that the text has.
So a formula that is read has at most 1024 nodes, and its value is worked out with at most 1024 formulas
inside of each other. -/
theorem reading_descends :
    (∀ (source : Source) (routine : Routine) (entered : Cursor),
      (∃ steps ≤ 13 * source.length + 11, ∃ result cursor,
        run source steps (.start routine entered) = .leaving ⟨routine, entered⟩ result cursor []) ∧
      Monotone (fun steps => (run source steps (.start routine entered)).cursor.position) ∧
      ∀ steps,
        (run source steps (.start routine entered)).active.Pairwise Deeper ∧
        ∀ now result cursor waiting,
          run source steps (.start routine entered) = .leaving now result cursor waiting →
            cursor.depth = now.entered.depth ∧
            ∀ formula, result = .ok formula →
              nodes formula ≤ cursor.position - now.entered.position ∧
              cursor.position ≤ source.front.length) ∧
    (∀ text tokens, scan text = .ok tokens →
      ∃ steps result cursor,
        run (.of tokens text.length) steps (.start (.chain .sum) ⟨0, 0⟩) =
          .leaving ⟨.chain .sum, ⟨0, 0⟩⟩ result cursor [] ∧
        parse text = (Source.of tokens text.length).verdict result cursor) ∧
    ∀ text formula, parse text = .ok formula →
      nodes formula ≤ 1024 ∧ ∀ x, valueWithin 1024 x formula = some (formula.value x) := by
  refine ⟨fun source routine entered => ⟨run_leaves source routine entered,
    run_forward (sound_start source routine entered), fun steps => ⟨run_deeper source routine entered steps,
      fun now result cursor waiting hleaving => ?_⟩⟩, fun text tokens hscan => ?_,
      fun text formula hparse => ?_⟩
  · have hleft := run_left hleaving
    refine ⟨hleft.closed, fun formula hformula => ?_⟩
    obtain ⟨hnodes, hfront⟩ := hleft.taken formula hformula
    exact ⟨by omega, hfront⟩
  · rw [parse, hscan]
    exact run_ofTokens tokens text.length
  · obtain ⟨tokens, hscan, hread⟩ := bind_eq_ok.1 hparse
    have hfew : tokens.length ≤ 1024 := (scan_eq_ok.1 ⟨tokens, hscan, rfl⟩).2.trans' (by simp)
    have hnodes := (nodes_le_of_ofTokens hread).trans hfew
    exact ⟨hnodes, valueWithin_eq hnodes⟩

end Microworlds.Proofs

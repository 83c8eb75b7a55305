import Microworlds.Proofs.Careful.Parser
import Mathlib.Data.List.Chain
import Mathlib.Order.Monotone.Basic
import Mathlib.Logic.Function.Iterate

/-!
# How formulas are read, step by step

The readers of formulas call each other. Here they are one machine: an activation of a routine is entered at
a cursor, goes on to another routine and waits for it, and is left with a formula or an error. What a routine
does next is said in one place, and the laws of all runs follow from it: a measure of the tokens that are
left and of the levels of the grammar goes down with each step, a routine is never entered again before a
token is taken, each routine is left with as many levels open as it was entered with, and a formula has no
more nodes than tokens that were taken for it.
-/

namespace Microworlds.Proofs

open Formula

/-- The number of nodes of a formula. -/
def nodes : Formula → Nat
  | .number _ | .unknown => 1
  | .negate inner => nodes inner + 1
  | .binary _ left right => nodes left + nodes right + 1
  | .call _ argument => nodes argument + 1

namespace Descent

/-- The marks of a text: those in front, and the one of the end. Other ends may stand in front of it. -/
structure Source where
  front : List Mark
  stop : Nat

namespace Source

def length (source : Source) : Nat := source.front.length + 1

/-- The mark at a position. The last mark is also that of all positions behind it. -/
def peek (source : Source) (position : Nat) : Mark :=
  source.front[position]?.getD ⟨none, source.stop⟩

def advance (source : Source) (cursor : Cursor) : Cursor :=
  if cursor.position < source.length then { cursor with position := cursor.position + 1 } else cursor

end Source

/-- The parts that are chains of operators and operands. -/
inductive Chain where
  | product
  | sum

inductive Routine where
  | primary
  | power
  | signed
  | unary
  | chain (kind : Chain)

def Chain.operator? : Chain → Token → Option Operator
  | product => productOperator?
  | sum => sumOperator?

def Chain.operand : Chain → Routine
  | product => .unary
  | sum => .chain product

/-- Where a part stands in the grammar. -/
def Routine.level : Routine → Nat
  | primary => 0
  | power => 1
  | signed => 2
  | unary => 3
  | chain .product => 4
  | chain .sum => 5

/-- What an activation does with the formula that it waits for. -/
inductive Pending where
  /-- Goes on with a chain behind its first operand. -/
  | first (kind : Chain)
  /-- Puts an operand behind an operator, and goes on with the chain. -/
  | operand (kind : Chain) (operator : Operator) (left : Formula)
  /-- Closes the level that it has opened. -/
  | level
  /-- Puts a minus in front. -/
  | negated
  /-- Gives the formula back as it is. -/
  | same
  /-- Looks for an exponent. -/
  | base
  | exponent (base : Formula)
  /-- Looks for a closing bracket. -/
  | group
  | argument (function : Function)

/-- What an activation does next: it is left, or enters a routine and waits for it. -/
inductive Action where
  | leave (result : Except Formula.Error Formula)
  | enter (routine : Routine) (pending : Pending)

variable (source : Source)

/-- A chain behind an operand. -/
def goOn (kind : Chain) (left : Formula) (cursor : Cursor) : Action × Cursor :=
  match (source.peek cursor.position).token.bind kind.operator? with
  | none => (.leave (.ok left), cursor)
  | some operator => (.enter kind.operand (.operand kind operator left), source.advance cursor)

/-- A primary, perhaps in front of an exponent. -/
def raise (base : Formula) (cursor : Cursor) : Action × Cursor :=
  match (source.peek cursor.position).token with
  | some .caret => (.enter .unary (.exponent base), source.advance cursor)
  | _ => (.leave (.ok base), cursor)

/-- What is in brackets, in front of the closing one. -/
def close (formula : Formula) (cursor : Cursor) : Action × Cursor :=
  match (source.peek cursor.position).token with
  | some .closing => (.leave (.ok formula), source.advance cursor)
  | _ => (.leave (.error (source.peek cursor.position).unexpected), cursor)

/-- A name, which is passed already. -/
def named (name : String) (cursor : Cursor) : Action × Cursor :=
  match (source.peek cursor.position).token with
  | some .opening =>
    match Function.named? name with
    | none => (.leave (.error (.unknownFunction name)), cursor)
    | some function => (.enter (.chain .sum) (.argument function), source.advance cursor)
  | _ =>
    match constant? name with
    | none => (.leave (.error (.unknownName name)), cursor)
    | some formula => (.leave (.ok formula), cursor)

/-- What a routine does first. -/
def start (routine : Routine) (cursor : Cursor) : Action × Cursor :=
  let mark := source.peek cursor.position
  match routine with
  | .chain kind => (.enter kind.operand (.first kind), cursor)
  | .unary =>
    if maxDepth ≤ cursor.depth then (.leave (.error .tooDeep), cursor)
    else (.enter .signed .level, { cursor with depth := cursor.depth + 1 })
  | .signed =>
    match mark.token with
    | some .minus => (.enter .unary .negated, source.advance cursor)
    | some .plus => (.enter .unary .same, source.advance cursor)
    | _ => (.enter .power .same, cursor)
  | .power => (.enter .primary .base, cursor)
  | .primary =>
    match mark.token with
    | some (.number x) => (.leave (.ok (.number x)), source.advance cursor)
    | some .opening => (.enter (.chain .sum) .group, source.advance cursor)
    | some (.name name) => named source name (source.advance cursor)
    | _ => (.leave (.error mark.unexpected), source.advance cursor)

/-- What is done with a result. An error leaves every activation, and closes the levels that are open. -/
def resume : Pending → Except Formula.Error Formula → Cursor → Action × Cursor
  | .level, result, cursor => (.leave result, { cursor with depth := cursor.depth - 1 })
  | _, .error e, cursor => (.leave (.error e), cursor)
  | .first kind, .ok left, cursor => goOn source kind left cursor
  | .operand kind operator left, .ok right, cursor => goOn source kind (.binary operator left right) cursor
  | .negated, .ok inner, cursor => (.leave (.ok (.negate inner)), cursor)
  | .same, .ok formula, cursor => (.leave (.ok formula), cursor)
  | .base, .ok base, cursor => raise source base cursor
  | .exponent base, .ok exponent, cursor => (.leave (.ok (.binary .power base exponent)), cursor)
  | .group, .ok inner, cursor => close source inner cursor
  | .argument function, .ok inner, cursor => close source (.call function inner) cursor

/-- A routine and where it was entered. -/
structure Activation where
  routine : Routine
  entered : Cursor

structure Waiting extends Activation where
  pending : Pending

/-- The activation that is running, and those that wait, the innermost one first. -/
inductive Config where
  | entering (now : Activation) (waiting : List Waiting)
  | leaving (now : Activation) (result : Except Formula.Error Formula) (cursor : Cursor)
    (waiting : List Waiting)

namespace Config

/-- Nothing but a routine that is entered. -/
def start (routine : Routine) (entered : Cursor) : Config :=
  .entering ⟨routine, entered⟩ []

def now : Config → Activation
  | entering now _ | leaving now _ _ _ => now

def waiting : Config → List Waiting
  | entering _ waiting | leaving _ _ _ waiting => waiting

def cursor : Config → Cursor
  | entering now _ => now.entered
  | leaving _ _ cursor _ => cursor

/-- All activations, the innermost one first. -/
def active (config : Config) : List Activation :=
  config.now :: config.waiting.map Waiting.toActivation

end Config

/-- What becomes of an activation by what it does. -/
def Activation.acts (now : Activation) (waiting : List Waiting) : Action × Cursor → Config
  | (.leave result, cursor) => .leaving now result cursor waiting
  | (.enter routine pending, cursor) => .entering ⟨routine, cursor⟩ (⟨now, pending⟩ :: waiting)

/-- The machine stops where no activation waits for the one that is left. -/
def step : Config → Option Config
  | .entering now waiting => some (now.acts waiting (start source now.routine now.entered))
  | .leaving _ result cursor (outer :: waiting) =>
    some (outer.acts waiting (resume source outer.pending result cursor))
  | .leaving _ _ _ [] => none

/-! ### What one activation may do -/

/-- The levels that an activation has opened while it waits. -/
def Pending.levels : Pending → Nat
  | level => 1
  | _ => 0

/-- The nodes that an activation has put together while it waits. -/
def Pending.nodes : Pending → Nat
  | operand _ _ left | exponent left => Proofs.nodes left + 1
  | negated | argument _ => 1
  | _ => 0

/-- The inner activation has been entered behind a token that the outer one had not taken when it was entered
itself, or at the same token for a lower part of the grammar. -/
def Deeper (inner outer : Activation) : Prop :=
  outer.entered.position < inner.entered.position ∨
    inner.entered.position = outer.entered.position ∧ inner.routine.level < outer.routine.level

/-- An activation is left with the levels that it was entered with, and with no more nodes than tokens. -/
structure Left (now : Activation) (result : Except Formula.Error Formula) (cursor : Cursor) : Prop where
  forward : now.entered.position ≤ cursor.position
  closed : cursor.depth = now.entered.depth
  taken : ∀ formula, result = .ok formula →
    now.entered.position + nodes formula ≤ cursor.position ∧ cursor.position ≤ source.front.length

/-- What an activation may do at a position: be left as above, or enter a routine behind another token, or
at the same position one of a lower level than the bound. -/
inductive Proper (now : Activation) (bound position : Nat) : Action × Cursor → Prop
  | leave {result : Except Formula.Error Formula} {cursor : Cursor}
    (hforward : position ≤ cursor.position) (hleft : Left source now result cursor) :
    Proper now bound position (.leave result, cursor)
  | enter {routine : Routine} {pending : Pending} {cursor : Cursor}
    (hlater : position < source.length ∧ position < cursor.position ∨
      cursor.position = position ∧ routine.level < bound)
    (hopened : cursor.depth = now.entered.depth + pending.levels)
    (htaken : now.entered.position + pending.nodes ≤ cursor.position) :
    Proper now bound position (.enter routine pending, cursor)

variable {source} {now : Activation} {cursor : Cursor} {bound : Nat}

lemma advance_of_token {token : Token} (h : (source.peek cursor.position).token = some token) :
    cursor.position < source.front.length ∧
      source.advance cursor = { cursor with position := cursor.position + 1 } := by
  have hlt : cursor.position < source.front.length := by
    by_contra hge
    rw [Source.peek, List.getElem?_eq_none (Nat.le_of_not_lt hge)] at h
    cases h
  exact ⟨hlt, if_pos (Nat.lt_succ_of_lt hlt)⟩

lemma advance_forward (source : Source) (cursor : Cursor) :
    cursor.position ≤ (source.advance cursor).position ∧
      (source.advance cursor).depth = cursor.depth := by
  unfold Source.advance
  split
  · exact ⟨Nat.le_succ _, rfl⟩
  · exact ⟨Nat.le_refl _, rfl⟩

lemma proper_error {position : Nat} (e : Formula.Error) (hforward : position ≤ cursor.position)
    (hentered : now.entered.position ≤ cursor.position) (hclosed : cursor.depth = now.entered.depth) :
    Proper source now bound position (.leave (.error e), cursor) :=
  .leave hforward ⟨hentered, hclosed, nofun⟩

lemma goOn_proper (kind : Chain) {left : Formula} (h : Left source now (.ok left) cursor) :
    Proper source now bound cursor.position (goOn source kind left cursor) := by
  unfold goOn
  split
  · exact .leave (Nat.le_refl _) h
  · next operator hoperator =>
    obtain ⟨token, htoken, -⟩ := Option.bind_eq_some_iff.1 hoperator
    obtain ⟨hlt, hadvance⟩ := advance_of_token htoken
    rw [hadvance]
    refine .enter (.inl ⟨Nat.lt_succ_of_lt hlt, Nat.lt_succ_self _⟩) h.closed ?_
    exact Nat.succ_le_succ (h.taken left rfl).1

lemma raise_proper {base : Formula} (h : Left source now (.ok base) cursor) :
    Proper source now bound cursor.position (raise source base cursor) := by
  unfold raise
  split
  · next htoken =>
    obtain ⟨hlt, hadvance⟩ := advance_of_token htoken
    rw [hadvance]
    refine .enter (.inl ⟨Nat.lt_succ_of_lt hlt, Nat.lt_succ_self _⟩) h.closed ?_
    exact Nat.succ_le_succ (h.taken base rfl).1
  · exact .leave (Nat.le_refl _) h

lemma close_proper {formula : Formula} (h : Left source now (.ok formula) cursor) :
    Proper source now bound cursor.position (close source formula cursor) := by
  unfold close
  split
  · next htoken =>
    obtain ⟨hlt, hadvance⟩ := advance_of_token htoken
    rw [hadvance]
    refine .leave (Nat.le_succ _) ⟨Nat.le_succ_of_le h.forward, h.closed, ?_⟩
    rintro _ ⟨⟩
    exact ⟨Nat.le_succ_of_le (h.taken formula rfl).1, hlt⟩
  · exact proper_error _ (Nat.le_refl _) h.forward h.closed

lemma nodes_constant {name : String} {formula : Formula} (h : constant? name = some formula) :
    nodes formula = 1 := by
  unfold constant? at h
  split at h <;> cases h <;> rfl

lemma named_proper (name : String) {position : Nat} (hposition : position + 1 = cursor.position)
    (hentered : now.entered.position = position) (hclosed : cursor.depth = now.entered.depth)
    (hfront : cursor.position ≤ source.front.length) :
    Proper source now bound position (named source name cursor) := by
  have hforward : position ≤ cursor.position := hposition ▸ Nat.le_succ _
  have hbehind : now.entered.position ≤ cursor.position := hentered ▸ hforward
  unfold named
  split
  · next htoken =>
    obtain ⟨hlt, hadvance⟩ := advance_of_token htoken
    split
    · exact proper_error _ hforward hbehind hclosed
    · rw [hadvance]
      refine .enter (.inl ⟨?_, ?_⟩) hclosed ?_
      · exact Nat.lt_succ_of_le (Nat.le_trans hforward hfront)
      · exact Nat.lt_succ_of_le hforward
      · exact Nat.succ_le_succ hbehind
  · split
    · exact proper_error _ hforward hbehind hclosed
    · next formula hformula =>
      refine .leave hforward ⟨hbehind, hclosed, ?_⟩
      rintro _ ⟨⟩
      rw [nodes_constant hformula, hentered, hposition]
      exact ⟨Nat.le_refl _, hfront⟩

lemma start_proper (source : Source) (now : Activation) :
    Proper source now now.routine.level now.entered.position
      (start source now.routine now.entered) := by
  obtain ⟨routine, entered⟩ := now
  have hstay (lower : Routine) (pending : Pending) (hlower : lower.level < routine.level)
      (hlevels : pending.levels = 0) (hnodes : pending.nodes = 0) :
      Proper source ⟨routine, entered⟩ routine.level entered.position
        (.enter lower pending, entered) :=
    .enter (.inr ⟨rfl, hlower⟩) (by rw [hlevels]; rfl) (by rw [hnodes]; exact Nat.le_refl _)
  have hbehind {token : Token} (htoken : (source.peek entered.position).token = some token)
      (inner : Routine) (pending : Pending) (hlevels : pending.levels = 0) (hnodes : pending.nodes ≤ 1) :
      Proper source ⟨routine, entered⟩ routine.level entered.position
        (.enter inner pending, source.advance entered) := by
    obtain ⟨hlt, hadvance⟩ := advance_of_token htoken
    rw [hadvance]
    refine .enter (.inl ⟨Nat.lt_succ_of_lt hlt, Nat.lt_succ_self _⟩) (by rw [hlevels]; rfl) ?_
    exact Nat.add_le_add_left hnodes _
  cases routine with
  | chain kind => cases kind <;> exact hstay _ _ (by decide) rfl rfl
  | power => exact hstay _ _ (by decide) rfl rfl
  | unary =>
    unfold start
    simp only
    split
    · exact proper_error _ (Nat.le_refl _) (Nat.le_refl _) rfl
    · exact .enter (.inr ⟨rfl, by decide⟩) rfl (Nat.le_refl _)
  | signed =>
    unfold start
    simp only
    split
    · next htoken => exact hbehind htoken _ _ rfl (Nat.le_refl _)
    · next htoken => exact hbehind htoken _ _ rfl (Nat.zero_le _)
    · exact hstay _ _ (by decide) rfl rfl
  | primary =>
    unfold start
    simp only
    split
    · next x htoken =>
      obtain ⟨hlt, hadvance⟩ := advance_of_token htoken
      rw [hadvance]
      refine .leave (Nat.le_succ _) ⟨Nat.le_succ _, rfl, ?_⟩
      rintro _ ⟨⟩
      exact ⟨Nat.le_refl _, hlt⟩
    · next htoken => exact hbehind htoken _ _ rfl (Nat.zero_le _)
    · next name htoken =>
      obtain ⟨hlt, hadvance⟩ := advance_of_token htoken
      rw [hadvance]
      exact named_proper name rfl rfl rfl hlt
    · have hadvance := advance_forward source entered
      exact proper_error _ hadvance.1 hadvance.1 hadvance.2

/-- An activation that waits for another one. -/
structure Supports (now : Activation) (outer : Waiting) : Prop where
  deeper : Deeper now outer.toActivation
  opened : now.entered.depth = outer.entered.depth + outer.pending.levels
  taken : outer.entered.position + outer.pending.nodes ≤ now.entered.position

lemma resume_proper {outer : Waiting} {result : Except Formula.Error Formula}
    (hsupports : Supports now outer) (hleft : Left source now result cursor) :
    Proper source outer.toActivation 0 cursor.position (resume source outer.pending result cursor) := by
  obtain ⟨outer, pending⟩ := outer
  obtain ⟨hforward, hclosed, htaken⟩ := hleft
  obtain ⟨-, hopened, hready⟩ := hsupports
  have hbehind : outer.entered.position ≤ cursor.position :=
    Nat.le_trans (Nat.le_trans (Nat.le_add_right _ _) hready) hforward
  have hdepth : cursor.depth = outer.entered.depth + pending.levels := hclosed.trans hopened
  cases result with
  | error e =>
    cases pending with
    | level => exact proper_error e (Nat.le_refl _) hbehind (by simp [hdepth, Pending.levels])
    | _ => exact proper_error e (Nat.le_refl _) hbehind hdepth
  | ok formula =>
    obtain ⟨htaken, hfront⟩ := htaken formula rfl
    -- What is put together from the formula and the nodes that are ready is paid for.
    have hjoined {joined : Formula} {after : Cursor} (hposition : after.position = cursor.position)
        (hnodes : nodes joined ≤ pending.nodes + nodes formula)
        (hlevels : after.depth = outer.entered.depth) : Left source outer (.ok joined) after := by
      refine ⟨hposition ▸ hbehind, hlevels, ?_⟩
      rintro _ ⟨⟩
      change outer.entered.position + pending.nodes ≤ _ at hready
      omega
    cases pending with
    | level =>
      exact .leave (Nat.le_refl _)
        (hjoined rfl (Nat.le_add_left _ _) (by simp [hdepth, Pending.levels]))
    | first kind => exact goOn_proper kind (hjoined rfl (Nat.le_add_left _ _) hdepth)
    | operand kind operator left =>
      refine goOn_proper kind (hjoined rfl ?_ hdepth)
      simp only [nodes, Pending.nodes]
      omega
    | negated => exact .leave (Nat.le_refl _) (hjoined rfl (Nat.add_comm _ _ ▸ Nat.le_refl _) hdepth)
    | same => exact .leave (Nat.le_refl _) (hjoined rfl (Nat.le_add_left _ _) hdepth)
    | base => exact raise_proper (hjoined rfl (Nat.le_add_left _ _) hdepth)
    | exponent base =>
      refine .leave (Nat.le_refl _) (hjoined rfl ?_ hdepth)
      simp only [nodes, Pending.nodes]
      omega
    | group => exact close_proper (hjoined rfl (Nat.le_add_left _ _) hdepth)
    | argument function =>
      exact close_proper (hjoined rfl (Nat.add_comm _ _ ▸ Nat.le_refl _) hdepth)

/-! ### Runs -/

/-- Each activation that waits supports the one that was entered from it. -/
def Stacked : Activation → List Waiting → Prop
  | _, [] => True
  | now, outer :: waiting => Supports now outer ∧ Stacked outer.toActivation waiting

variable (source) in
/-- What holds all through a run. -/
def Sound : Config → Prop
  | .entering now waiting => Stacked now waiting
  | .leaving now result cursor waiting => Stacked now waiting ∧ Left source now result cursor

variable (source) in
/-- A token that is left pays for all the steps up to the next one. -/
def potential : Config → Nat
  | .entering now waiting =>
    13 * (source.length - now.entered.position) + 2 * now.routine.level + 1 + waiting.length
  | .leaving _ _ cursor waiting => 13 * (source.length - cursor.position) + waiting.length

variable (source) in
/-- From one configuration to the next. -/
structure Progress (config next : Config) : Prop where
  sound : Sound source next
  forward : config.cursor.position ≤ next.cursor.position
  bottom : next.active.getLast? = config.active.getLast?
  falls : potential source next < potential source config

lemma Routine.level_le (routine : Routine) : routine.level ≤ 5 := by
  rcases routine with _ | _ | _ | _ | ⟨_ | _⟩ <;> decide

lemma Proper.acts {position : Nat} {act : Action × Cursor} {waiting : List Waiting}
    (h : Proper source now bound position act) (hstacked : Stacked now waiting)
    (hentered : now.entered.position ≤ position) (hbound : bound ≤ now.routine.level) :
    Sound source (now.acts waiting act) ∧ position ≤ (now.acts waiting act).cursor.position ∧
      potential source (now.acts waiting act) <
        13 * (source.length - position) + 2 * bound + 1 + waiting.length := by
  cases h with
  | leave hforward hleft =>
    refine ⟨⟨hstacked, hleft⟩, hforward, ?_⟩
    simp only [Activation.acts, potential]
    omega
  | @enter routine pending cursor hlater hopened htaken =>
    have hlevel := routine.level_le
    refine ⟨⟨⟨?_, hopened, htaken⟩, hstacked⟩, ?_, ?_⟩
    · obtain ⟨-, hlater⟩ | ⟨hsame, hlower⟩ := hlater
      · exact .inl (Nat.lt_of_le_of_lt hentered hlater)
      · obtain hlt | heq := Nat.lt_or_eq_of_le hentered
        · exact .inl (hsame ▸ hlt)
        · exact .inr ⟨hsame.trans heq.symm, Nat.lt_of_lt_of_le hlower hbound⟩
    · change position ≤ cursor.position
      omega
    · simp only [Activation.acts, potential, List.length_cons]
      omega

lemma getLast?_acts (now : Activation) (waiting : List Waiting) (act : Action × Cursor) :
    (now.acts waiting act).active.getLast? = (now :: waiting.map Waiting.toActivation).getLast? := by
  obtain ⟨action, cursor⟩ := act
  cases action with
  | leave result => rfl
  | enter routine pending => exact List.getLast?_cons_cons

/-- Each step keeps the order of the activations, goes on behind the tokens that are taken, and spends some
of what is left. -/
lemma step_progress {config next : Config} (h : Sound source config)
    (hstep : step source config = some next) : Progress source config next := by
  cases config with
  | entering now waiting =>
    cases hstep
    obtain ⟨hsound, hforward, hfalls⟩ :=
      (start_proper source now).acts h (Nat.le_refl _) (Nat.le_refl _)
    exact ⟨hsound, hforward, getLast?_acts now waiting _, hfalls⟩
  | leaving now result cursor waiting =>
    cases waiting with
    | nil => cases hstep
    | cons outer waiting =>
      cases hstep
      obtain ⟨⟨hsupports, hstacked⟩, hleft⟩ := h
      have hbehind : outer.entered.position ≤ cursor.position :=
        Nat.le_trans (Nat.le_trans (Nat.le_add_right _ _) hsupports.taken) hleft.forward
      obtain ⟨hsound, hforward, hfalls⟩ :=
        (resume_proper hsupports hleft).acts hstacked hbehind (Nat.zero_le _)
      refine ⟨hsound, hforward, ?_, ?_⟩
      · rw [getLast?_acts]
        exact List.getLast?_cons_cons.symm
      · change _ < 13 * (source.length - cursor.position) + (waiting.length + 1)
        omega

variable (source) in
/-- The configuration that comes next; a machine that has stopped stays where it is. -/
def next (config : Config) : Config :=
  (step source config).getD config

variable (source) in
/-- The configuration after a number of steps. -/
def run (steps : Nat) (config : Config) : Config :=
  (next source)^[steps] config

lemma run_succ (steps : Nat) (config : Config) :
    run source (steps + 1) config = next source (run source steps config) :=
  Function.iterate_succ_apply' _ _ _

lemma next_of_none {config : Config} (h : step source config = none) : next source config = config := by
  rw [next, h]
  rfl

lemma next_of_some {config after : Config} (h : step source config = some after) :
    next source config = after := by
  rw [next, h]
  rfl

variable {first : Config}

lemma run_sound (h : Sound source first) (steps : Nat) :
    Sound source (run source steps first) ∧
      (run source steps first).active.getLast? = first.active.getLast? := by
  induction steps with
  | zero => exact ⟨h, rfl⟩
  | succ steps ih =>
    rw [run_succ]
    cases hstep : step source (run source steps first) with
    | none =>
      rw [next_of_none hstep]
      exact ih
    | some after =>
      have hprogress := step_progress ih.1 hstep
      rw [next_of_some hstep]
      exact ⟨hprogress.sound, hprogress.bottom.trans ih.2⟩

lemma run_forward (h : Sound source first) :
    Monotone fun steps => (run source steps first).cursor.position := by
  refine monotone_nat_of_le_succ fun steps => ?_
  rw [run_succ]
  cases hstep : step source (run source steps first) with
  | none => rw [next_of_none hstep]
  | some after =>
    rw [next_of_some hstep]
    exact (step_progress (run_sound h steps).1 hstep).forward

/-- A run that has not stopped has spent something at each step. -/
lemma run_falls (h : Sound source first) (steps : Nat)
    (hgoes : step source (run source steps first) ≠ none) :
    potential source (run source steps first) + steps ≤ potential source first := by
  induction steps with
  | zero => exact Nat.le_refl _
  | succ steps ih =>
    rw [run_succ] at hgoes ⊢
    cases hstep : step source (run source steps first) with
    | none =>
      rw [next_of_none hstep] at hgoes
      exact absurd hstep hgoes
    | some after =>
      rw [next_of_some hstep] at hgoes ⊢
      have hfalls := (step_progress (run_sound h steps).1 hstep).falls
      have hspent := ih (by rw [hstep]; nofun)
      omega

lemma run_stops (h : Sound source first) :
    step source (run source (potential source first) first) = none := by
  by_contra hgoes
  have hspent := run_falls h _ hgoes
  obtain ⟨after, hstep⟩ := Option.ne_none_iff_exists'.1 hgoes
  have hfalls := (step_progress (run_sound h _).1 hstep).falls
  omega

lemma eq_leaving_of_stopped {config : Config} (h : step source config = none) :
    ∃ now result cursor, config = .leaving now result cursor [] := by
  cases config with
  | entering => cases h
  | leaving now result cursor waiting =>
    cases waiting with
    | nil => exact ⟨now, result, cursor, rfl⟩
    | cons => cases h

/-- Of two activations, the inner one is deeper. -/
instance : Trans Deeper Deeper Deeper where
  trans hinner houter := by
    unfold Deeper at *
    omega

lemma Stacked.pairwise {waiting : List Waiting} (h : Stacked now waiting) :
    (now :: waiting.map Waiting.toActivation).Pairwise Deeper := by
  rw [← List.isChain_iff_pairwise]
  induction waiting generalizing now with
  | nil => exact .singleton now
  | cons outer waiting ih => exact .cons_cons h.1.deeper (ih h.2)

variable (source)

lemma sound_start (routine : Routine) (entered : Cursor) : Sound source (.start routine entered) :=
  trivial

lemma run_leaves (routine : Routine) (entered : Cursor) :
    ∃ steps ≤ 13 * source.length + 11, ∃ result cursor,
      run source steps (.start routine entered) = .leaving ⟨routine, entered⟩ result cursor [] := by
  have hsound := sound_start source routine entered
  obtain ⟨now, result, cursor, hlast⟩ := eq_leaving_of_stopped (run_stops hsound)
  have hbottom := (run_sound hsound (potential source (.start routine entered))).2
  rw [hlast] at hbottom
  cases hbottom
  refine ⟨_, ?_, result, cursor, hlast⟩
  have hlevel := routine.level_le
  simp only [Config.start, potential, List.length_nil]
  omega

lemma run_deeper (routine : Routine) (entered : Cursor) (steps : Nat) :
    (run source steps (.start routine entered)).active.Pairwise Deeper := by
  have hsound := (run_sound (sound_start source routine entered) steps).1
  cases hconfig : run source steps (.start routine entered) with
  | entering now waiting =>
    rw [hconfig] at hsound
    exact Stacked.pairwise hsound
  | leaving now result cursor waiting =>
    rw [hconfig] at hsound
    exact hsound.1.pairwise

variable {source}

lemma run_left {routine : Routine} {entered : Cursor} {steps : Nat}
    {result : Except Formula.Error Formula} {waiting : List Waiting}
    (h : run source steps (.start routine entered) = .leaving now result cursor waiting) :
    Left source now result cursor := by
  have hsound := (run_sound (sound_start source routine entered) steps).1
  rw [h] at hsound
  exact hsound.2

end Descent

end Microworlds.Proofs

import Microworlds.Proofs.Hash.Sum

/-!
# The result of the hash walkthrough

A result is the remainder of the sum from which it was worked out. Every command that begins the sum
anew, or takes it away, takes the result away as well or works it out again. An accumulation does not:
the sum goes on to grow, and the result stays what it was.
-/

namespace Microworlds.Proofs

variable {configured : UInt32} {state after : Hash.State} {command : Hash.Command}

/-! ### Divisors -/

/-- The modulus of a command that works out a result, in a walkthrough with a configured one. -/
def divisor? (configured : UInt32) : Hash.Command → Option Nat
  | .return modulus => some modulus.toInt.toNat
  | .hashOf _ => some (max 1 configured.toNat)
  | .define _ | .setInput _ _ | .initSum | .loop _ _ | .accumulate _ => none

/-- The modulus of the latest command that has worked out a result. -/
def lastDivisor? (configured : UInt32) (done : List Hash.Command) : Option Nat :=
  (done.filterMap (divisor? configured)).getLast?

/-- The sum of which an event has worked out a result. -/
def answeredSum? (configured : UInt32) (event : HashEvent) : Option UInt64 :=
  match event.outcome with
  | .ok _ => (divisor? configured event.command).bind fun _ => event.after.sum
  | .error _ => none

/-- The sum of which the latest result has been worked out. -/
def lastSum? (configured : UInt32) (events : List HashEvent) : Option UInt64 :=
  (events.filterMap (answeredSum? configured)).getLast?

/-- How many times the input has been added to the sum since a result was worked out, after a command
has succeeded, if that was `n` times before. -/
def addedAfter (n : Nat) : Hash.Command → Nat
  | .return _ | .hashOf _ => 0
  | .accumulate _ => n + 1
  | .define _ | .setInput _ _ | .initSum | .loop _ _ => n

def added (done : List Hash.Command) : Nat :=
  done.foldl addedAfter 0

lemma getLast?_filterMap_concat {α β : Type} (f : α → Option β) (l : List α) (a : α) :
    ((l ++ [a]).filterMap f).getLast? = (f a).or (l.filterMap f).getLast? := by
  rw [List.filterMap_append, List.getLast?_append]
  cases h : f a with
  | some b => simp [h]
  | none => simp [h]

lemma lastDivisor?_append (configured : UInt32) (done : List Hash.Command) (command : Hash.Command) :
    lastDivisor? configured (done ++ [command]) =
      (divisor? configured command).or (lastDivisor? configured done) :=
  getLast?_filterMap_concat _ done command

lemma lastSum?_success (configured : UInt32) (events : List HashEvent) (before after : Hash.State)
    (command : Hash.Command) (effect : Effect) :
    lastSum? configured (events ++ [⟨before, command, .ok effect, after⟩]) =
      ((divisor? configured command).bind fun _ => after.sum).or (lastSum? configured events) :=
  getLast?_filterMap_concat _ events _

lemma lastSum?_failure (configured : UInt32) (events : List HashEvent) (before after : Hash.State)
    (command : Hash.Command) (e : Refusal) :
    lastSum? configured (events ++ [⟨before, command, .error e, after⟩]) = lastSum? configured events :=
  getLast?_filterMap_concat _ events _

lemma toNat_of_pos {modulus : Int64} (h : 0 < modulus) :
    modulus.toUInt64.toNat = modulus.toInt.toNat ∧ 0 < modulus.toInt.toNat := by
  have hpos : 0 < modulus.toInt := Int64.lt_iff_toInt_lt.mp h
  have hcases : modulus.toInt = if 2 * modulus.toUInt64.toNat < 2 ^ 64
      then (modulus.toUInt64.toNat : Int) else modulus.toUInt64.toNat - (2 ^ 64 : Nat) :=
    BitVec.toInt_eq_toNat_cond modulus.toBitVec
  have hlt := modulus.toUInt64.toNat_lt
  split at hcases
  · omega
  · omega

lemma toNat_callModulus (state : Hash.State) :
    (Hash.callModulus state).toNat = max 1 state.modulus.toNat := by
  unfold Hash.callModulus
  rw [UInt32.toNat_toUInt64]
  split
  · next hzero =>
    rw [hzero]
    rfl
  · next hzero =>
    have hne : state.modulus.toNat ≠ 0 := fun h => hzero (UInt32.toNat_inj.mp h)
    omega

/-! ### Results -/

/-- A result is the remainder of a sum, and the input has been added to this sum a number of times
since. -/
def Stems (divisor? : Option Nat) (first? : Option UInt64) (added : Nat) (state : Hash.State)
    (result : UInt64) : Prop :=
  ∃ sum first divisor, state.sum = some sum ∧ first? = some first ∧ divisor? = some divisor ∧
    0 < divisor ∧ result.toNat = first.toNat % divisor ∧
    sum.toNat = min Word.greatest64 (first.toNat + added * codeSum state.input)

/-- What holds after some commands have been tried. -/
structure Answers (configured : UInt32) (events : List HashEvent) (state : Hash.State) : Prop where
  modulus : state.modulus = configured
  result : ∀ result ∈ state.result,
    Stems (lastDivisor? configured (carriedOut events)) (lastSum? configured events)
      (added (carriedOut events)) state result

lemma sum_le_greatest (sum : UInt64) : sum.toNat ≤ Word.greatest64 :=
  Nat.le_of_lt_succ sum.toNat_lt_size

lemma stems_fresh {divisor : Nat} {sum modulus : UInt64} (hsum : state.sum = some sum)
    (hdivisor : modulus.toNat = divisor) (hpositive : 0 < divisor) :
    Stems (some divisor) (some sum) 0 state (sum % modulus) := by
  refine ⟨sum, sum, divisor, hsum, rfl, rfl, hpositive, ?_, ?_⟩
  · rw [UInt64.toNat_mod, hdivisor]
  · rw [Nat.zero_mul, Nat.add_zero, Nat.min_eq_right (sum_le_greatest sum)]

lemma Stems.accumulated {divisor? : Option Nat} {first? : Option UInt64} {n : Nat}
    {result start : UInt64} (h : Stems divisor? first? n state result)
    (hsum : state.sum = some start) :
    Stems divisor? first? (n + 1)
      { state with sum := some (Hash.accumulate state.input start).1 } result := by
  obtain ⟨sum, first, divisor, hfound, hfirst, hdivisor, hpositive, hresult, hsince⟩ := h
  have hstart : start = sum := Option.some.inj (hsum.symm.trans hfound)
  refine ⟨_, first, divisor, rfl, hfirst, hdivisor, hpositive, hresult, ?_⟩
  change (Hash.accumulate state.input start).1.toNat =
    min Word.greatest64 (first.toNat + (n + 1) * codeSum state.input)
  rw [toNat_accumulate, hstart, hsince, Nat.add_mul, Nat.one_mul]
  omega

lemma answers_initial (configured : UInt32) : Answers configured [] (.initial configured) where
  modulus := rfl
  result := by
    intro result hresult
    cases hresult

lemma Answers.success {events : List HashEvent} (h : Answers configured events state)
    (hchange : HashChange state command after) (effect : Effect) :
    Answers configured (events ++ [⟨state, command, .ok effect, after⟩]) after := by
  have hadded : added (carriedOut events ++ [command]) =
      addedAfter (added (carriedOut events)) command := by
    unfold added
    rw [List.foldl_append]
    rfl
  have hdivisor := lastDivisor?_append configured (carriedOut events) command
  have hsums := lastSum?_success configured events state after command effect
  suffices hresults : after.modulus = configured ∧ ∀ result ∈ after.result,
      Stems ((divisor? configured command).or (lastDivisor? configured (carriedOut events)))
        (((divisor? configured command).bind fun _ => after.sum).or (lastSum? configured events))
        (addedAfter (added (carriedOut events)) command) after result by
    refine ⟨hresults.1, ?_⟩
    rw [carriedOut_success, hadded, hdivisor, hsums]
    exact hresults.2
  cases hchange with
  | define | setInput | initSum => exact ⟨h.modulus, nofun⟩
  | loop var source sum hparam hsum => exact ⟨h.modulus, fun result hresult => h.result result hresult⟩
  | accumulate var start hvar hsum =>
    exact ⟨h.modulus, fun result hresult => (h.result result hresult).accumulated hsum⟩
  | «return» modulus sum hsum hmodulus =>
    refine ⟨h.modulus, ?_⟩
    rintro result ⟨⟩
    obtain ⟨hvalue, hpositive⟩ := toNat_of_pos hmodulus
    change Stems _ (state.sum.or (lastSum? configured events)) _ _ _
    rw [hsum]
    exact stems_fresh rfl hvalue hpositive
  | hashOf text sum hsum =>
    refine ⟨h.modulus, ?_⟩
    rintro result ⟨⟩
    have hvalue := toNat_callModulus state
    rw [h.modulus] at hvalue
    exact stems_fresh rfl hvalue (by omega)

lemma answers_history (configured : UInt32) (commands : List Hash.Command) :
    Answers configured (history Hash.perform (.initial configured) commands)
      (reached Hash.perform (.initial configured) commands) := by
  refine history_induction hash_atomic (motive := Answers configured) (answers_initial configured)
    ?_ ?_ commands
  · intro events state command effect after hanswers hperform
    exact hanswers.success (hash_change hperform) effect
  · intro events state command e hanswers
    refine ⟨hanswers.modulus, ?_⟩
    rw [carriedOut_failure, lastSum?_failure]
    exact hanswers.result

/-- A command that changes the sum has cleared the result or worked it out again, or it is an
accumulation, which leaves it. -/
lemma HashChange.renewed (h : HashChange state command after) (hsum : after.sum ≠ state.sum) :
    after.result = none ∨
      (∃ text sum, command = .hashOf text ∧ after.sum = some sum ∧
        after.result = some (sum % Hash.callModulus state)) ∨
      ∃ var, command = .accumulate var ∧ after.result = state.result := by
  cases h with
  | define | setInput | initSum => exact .inl rfl
  | loop | «return» => exact absurd rfl hsum
  | accumulate var start hvar hstart => exact .inr (.inr ⟨var, rfl, rfl⟩)
  | hashOf text sum htext => exact .inr (.inl ⟨text, sum, rfl, rfl, rfl⟩)

/-- A result belongs to the sum it was worked out from, whatever is tried and whatever fails. If there
is a result, there is a sum, and the result is the remainder of the sum that the latest `return` or call
has found, by the modulus of this command; the present sum is what that one has come to by adding the
input as many times as it has been accumulated since. So the result belongs to the sum as long as nothing
has been accumulated since. Every other command that changes the sum clears the result or works it out
again, and an accumulation leaves it. -/
theorem result_belongs_to_earlier_sum (configured : UInt32) (commands : List Hash.Command) :
    let events := history Hash.perform (.initial configured) commands
    let done := carriedOut events
    let state := reached Hash.perform (.initial configured) commands
    (∀ result, state.result = some result → ∃ sum start divisor,
      state.sum = some sum ∧ lastSum? configured events = some start ∧
      lastDivisor? configured done = some divisor ∧ 0 < divisor ∧
      result.toNat = start.toNat % divisor ∧
      sum.toNat = min Word.greatest64 (start.toNat + added done * codeSum state.input) ∧
      (added done = 0 → result.toNat = sum.toNat % divisor)) ∧
    ∀ event ∈ events, event.after.sum ≠ event.before.sum →
      event.after.result = none ∨
      (∃ text sum, event.command = .hashOf text ∧ event.after.sum = some sum ∧
        event.after.result = some (sum % Hash.callModulus event.before)) ∨
      ∃ var, event.command = .accumulate var ∧ event.after.result = event.before.result := by
  intro events done state
  have hanswers : Answers configured events state := answers_history configured commands
  refine ⟨fun result hresult => ?_, fun event hevent hsum => ?_⟩
  · obtain ⟨sum, start, divisor, hsum, hstart, hdivisor, hpositive, hremainder, hsince⟩ :=
      hanswers.result result hresult
    refine ⟨sum, start, divisor, hsum, hstart, hdivisor, hpositive, hremainder, hsince, fun hnone => ?_⟩
    rw [show added (carriedOut events) = 0 from hnone, Nat.zero_mul, Nat.add_zero,
      Nat.min_eq_right (sum_le_greatest start)] at hsince
    rw [hremainder, hsince]
  · cases houtcome : event.outcome with
    | ok effect => exact (hash_change (perform_of_ok hevent houtcome)).renewed hsum
    | error e =>
      have hkept := hash_atomic event.command event.before e _ (perform_of_error hevent houtcome)
      exact absurd (congrArg Hash.State.sum hkept) hsum

/-- The whole function, which is then run on a second text by a call. -/
def walk : List Hash.Command :=
  [.define "key", .initSum, .loop "c" "key", .accumulate "c", .return 8, .accumulate "d", .hashOf "b",
    .return 0, .loop "d" "key"]

theorem walk_answered :
    (reached Hash.perform (.initial 0) walk).result = some 0 ∧
    added (carriedOut (history Hash.perform (.initial 0) walk)) = 0 ∧
    (∃ sum divisor, (reached Hash.perform (.initial 0) walk).sum = some sum ∧
      lastDivisor? 0 (carriedOut (history Hash.perform (.initial 0) walk)) = some divisor ∧
      (0 : UInt64).toNat = sum.toNat % divisor) ∧
    ∃ event ∈ history Hash.perform (.initial 0) walk,
      event.command = .initSum ∧ event.after.sum ≠ event.before.sum ∧ event.after.result = none := by
  have hresult : (reached Hash.perform (.initial 0) walk).result = some 0 := by decide +kernel
  have hadded : added (carriedOut (history Hash.perform (.initial 0) walk)) = 0 := by decide +kernel
  obtain ⟨hresults, hevents⟩ := result_belongs_to_earlier_sum 0 walk
  obtain ⟨sum, start, divisor, hsum, -, hdivisor, -, -, -, hbelongs⟩ := hresults 0 hresult
  refine ⟨hresult, hadded, ⟨sum, divisor, hsum, hdivisor, hbelongs hadded⟩, ?_⟩
  have hbegun : ∃ event ∈ history Hash.perform (.initial 0) walk,
      event.command = .initSum ∧ event.after.sum ≠ event.before.sum :=
    ⟨_, .tail _ (.head _), happen_command _ _, nofun⟩
  obtain ⟨event, hevent, hcommand, hchanged⟩ := hbegun
  refine ⟨event, hevent, hcommand, hchanged, ?_⟩
  rcases hevents event hevent hchanged with hcleared | ⟨text, sum, hcall, -⟩ | ⟨var, hadding, -⟩
  · exact hcleared
  · cases hcommand.symm.trans hcall
  · cases hcommand.symm.trans hadding

/-- The text is added to the sum once the result is there. -/
def outdated : List Hash.Command :=
  [.define "key", .initSum, .loop "c" "key", .return 8, .accumulate "c"]

/-- The result is not the remainder of the sum in this state. -/
example :
    let state := reached Hash.perform (.initial 8) outdated
    state.sum = some 530 ∧ state.result = some 0 ∧ (530 : UInt64) % 8 = 2 ∧
      added (carriedOut (history Hash.perform (.initial 8) outdated)) = 1 := by
  decide +kernel

end Microworlds.Proofs

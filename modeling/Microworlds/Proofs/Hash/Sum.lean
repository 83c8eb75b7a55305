import Microworlds.Proofs.Atomicity
import Microworlds.Proofs.Counter
import Microworlds.Proofs.History
import Mathlib

/-!
# The sum of the hash walkthrough

The sum that is kept is always one of the input that is kept: the code points of the text, added up a
number of times. Whatever changes the text takes the sum away or works it out anew.
-/

namespace Microworlds.Proofs

abbrev HashEvent := Event Refusal Hash.Command Hash.State

/-! ### Sums of code points -/

def codeSum (text : String) : Nat :=
  (text.toList.map Char.toNat).sum

lemma accumulateFrom_cons (start : UInt64) (c : Char) (rest : List Char) :
    Hash.accumulateFrom start (c :: rest) =
      ((Hash.accumulateFrom (Counter.add start c.val.toUInt64) rest).1,
        .accumulate c c.val (Counter.add start c.val.toUInt64) ::
          (Hash.accumulateFrom (Counter.add start c.val.toUInt64) rest).2) :=
  rfl

lemma toNat_accumulateFrom (start : UInt64) (cs : List Char) :
    (Hash.accumulateFrom start cs).1.toNat =
      min Word.greatest64 (start.toNat + (cs.map Char.toNat).sum) := by
  induction cs generalizing start with
  | nil =>
    have hstart : start.toNat ≤ Word.greatest64 := Nat.le_of_lt_succ start.toNat_lt_size
    change start.toNat = _
    rw [List.map_nil, List.sum_nil]
    omega
  | cons c rest ih =>
    have hcode : c.val.toUInt64.toNat = c.toNat := UInt32.toNat_toUInt64 c.val
    rw [accumulateFrom_cons, ih, toNat_add, hcode, List.map_cons, List.sum_cons]
    omega

lemma toNat_accumulate (text : String) (start : UInt64) :
    (Hash.accumulate text start).1.toNat = min Word.greatest64 (start.toNat + codeSum text) :=
  toNat_accumulateFrom start text.toList

/-! ### What commands do -/

/-- What each command does to the walkthrough when it succeeds. -/
inductive HashChange (state : Hash.State) : Hash.Command → Hash.State → Prop
  | define (param : String) :
    HashChange state (.define param)
      { state with param := some param, sum := none, loopVar := none, result := none }
  | setInput (name value : String) (hname : ∀ param ∈ state.param, param = name) :
    HashChange state (.setInput name value)
      { state with input := value, sum := none, result := none }
  | initSum (param : String) (hparam : state.param = some param) :
    HashChange state .initSum { state with sum := some 0, result := none }
  | loop (var source : String) (sum : UInt64) (hparam : state.param = some source)
      (hsum : state.sum = some sum) :
    HashChange state (.loop var source) { state with loopVar := some var }
  | accumulate (var : String) (start : UInt64) (hvar : state.loopVar = some var)
      (hsum : state.sum = some start) :
    HashChange state (.accumulate var)
      { state with sum := some (Hash.accumulate state.input start).1 }
  | return (modulus : Int64) (sum : UInt64) (hsum : state.sum = some sum) (hmodulus : 0 < modulus) :
    HashChange state (.return modulus) { state with result := some (sum % modulus.toUInt64) }
  | hashOf (text : String) (sum : UInt64) (hsum : sum = (Hash.accumulate text 0).1) :
    HashChange state (.hashOf text)
      { state with
        input := text
        sum := some sum
        result := some (sum % Hash.callModulus state) }

variable {state after : Hash.State} {command : Hash.Command} {effect : Effect}

lemma definedParam_ok {param : String} (h : Hash.definedParam state = .ok param) :
    state.param = some param := by
  unfold Hash.definedParam at h
  split at h
  · next found hparam => cases h; exact hparam
  · cases h

lemma initializedSum_ok {sum : UInt64} (h : Hash.initializedSum state = .ok sum) :
    state.sum = some sum := by
  unfold Hash.initializedSum at h
  split at h
  · next found hsum => cases h; exact hsum
  · cases h

lemma hash_change (h : Hash.perform command state = .ok effect after) :
    HashChange state command after := by
  cases command with
  | define param =>
    cases h
    exact .define param
  | setInput name value =>
    obtain ⟨hname, h⟩ := bind_stopIf_ok (bind_get_ok h)
    cases h
    refine .setInput name value fun param hparam => ?_
    rw [Option.mem_def] at hparam
    simpa [hparam] using hname
  | initSum =>
    obtain ⟨param, hparam, h⟩ := bind_liftM_ok (bind_get_ok h)
    cases h
    exact .initSum param (definedParam_ok hparam)
  | loop var source =>
    obtain ⟨param, hparam, h⟩ := bind_liftM_ok (bind_get_ok h)
    obtain ⟨hsource, h⟩ := bind_stopIf_ok h
    obtain ⟨sum, hsum, h⟩ := bind_liftM_ok h
    cases h
    have hparam : state.param = some source := by
      rw [definedParam_ok hparam]
      simpa using hsource
    exact .loop var source sum hparam (initializedSum_ok hsum)
  | accumulate var =>
    obtain ⟨hvar, h⟩ := bind_stopIf_ok (bind_get_ok h)
    obtain ⟨start, hsum, h⟩ := bind_liftM_ok h
    cases h
    exact .accumulate var start (by simpa using hvar) (initializedSum_ok hsum)
  | «return» modulus =>
    obtain ⟨sum, hsum, h⟩ := bind_liftM_ok (bind_get_ok h)
    obtain ⟨hmodulus, h⟩ := bind_stopIf_ok h
    cases h
    exact .return modulus sum (initializedSum_ok hsum) (by simpa using hmodulus)
  | hashOf text =>
    cases h
    exact .hashOf text _ rfl

/-! ### Histories -/

/-- How many times the input has been added up in the sum after a command has succeeded, if that was `n`
times before. -/
def roundsAfter (n : Nat) : Hash.Command → Nat
  | .initSum => 0
  | .hashOf _ => 1
  | .accumulate _ => n + 1
  | .define _ | .setInput _ _ | .loop _ _ | .return _ => n

def rounds (done : List Hash.Command) : Nat :=
  done.foldl roundsAfter 0

/-- The sum, if there is one, is that of the input, taken a number of times. -/
def Describes (rounds : Nat) (state : Hash.State) : Prop :=
  ∀ sum ∈ state.sum, sum.toNat = min Word.greatest64 (rounds * codeSum state.input)

lemma Describes.change {n : Nat} (h : Describes n state) (hchange : HashChange state command after) :
    Describes (roundsAfter n command) after := by
  cases hchange with
  | define param => nofun
  | setInput name value hname => nofun
  | initSum param hparam =>
    rintro sum ⟨⟩
    rw [roundsAfter, Nat.zero_mul, Nat.min_zero]
    rfl
  | loop var source sum hparam hsum => exact h
  | accumulate var start hvar hsum =>
    rintro sum ⟨⟩
    have hstart := h start hsum
    change (Hash.accumulate state.input start).1.toNat = min _ ((n + 1) * codeSum state.input)
    -- a sum that has come to the greatest number stays there
    rw [toNat_accumulate, hstart, Nat.add_mul, Nat.one_mul]
    omega
  | «return» modulus sum hsum hmodulus => exact h
  | hashOf text sum hsum =>
    rintro _ ⟨⟩
    have hzero : (0 : UInt64).toNat = 0 := rfl
    rw [hsum, toNat_accumulate, hzero, Nat.zero_add, roundsAfter, Nat.one_mul]

lemma describes_initial (modulus : UInt32) : Describes 0 (.initial modulus) := by
  intro sum hsum
  cases hsum

lemma describes_history (modulus : UInt32) (commands : List Hash.Command) :
    Describes (rounds (carriedOut (history Hash.perform (.initial modulus) commands)))
      (reached Hash.perform (.initial modulus) commands) := by
  refine history_induction hash_atomic
    (motive := fun events state => Describes (rounds (carriedOut events)) state)
    (describes_initial modulus) ?_ ?_ commands
  · intro events state command effect after hdescribes hperform
    rw [carriedOut_success, rounds, List.foldl_append]
    exact hdescribes.change (hash_change hperform)
  · intro events state command e hdescribes
    rwa [carriedOut_failure]

lemma HashChange.defined {param : String} (h : HashChange state (.define param) after) :
    after.sum = none := by
  cases h
  rfl

lemma HashChange.assigned {name value : String} (h : HashChange state (.setInput name value) after) :
    after.input = value ∧ after.sum = none := by
  cases h
  exact ⟨rfl, rfl⟩

/-- The sum describes the input, whatever is tried and whatever fails. If there is a sum, it is the
sum of the code points of the present input, taken as many times as they have been added up since the sum
was last begun, or the greatest number if that is more. It begins at no times with `sum = 0` and at once
with a call, and each accumulation adds one. A definition of the function and a new input take the sum
away. -/
theorem sum_describes_input (modulus : UInt32) (commands : List Hash.Command) :
    let events := history Hash.perform (.initial modulus) commands
    let state := reached Hash.perform (.initial modulus) commands
    (∀ sum, state.sum = some sum →
      sum.toNat = min Word.greatest64 (rounds (carriedOut events) * codeSum state.input)) ∧
    ∀ event ∈ events, ∀ effect, event.outcome = .ok effect →
      (∀ param, event.command = .define param → event.after.sum = none) ∧
      ∀ name value, event.command = .setInput name value →
        event.after.input = value ∧ event.after.sum = none := by
  intro events state
  refine ⟨fun sum hsum => describes_history modulus commands sum hsum,
    fun event hevent effect hok => ?_⟩
  have hchange := hash_change (perform_of_ok hevent hok)
  exact ⟨fun param hdefine => HashChange.defined (hdefine ▸ hchange),
    fun name value hinput => HashChange.assigned (hinput ▸ hchange)⟩

/-- The function is written down, and run again on a text that is given in between. -/
def rewritten : List Hash.Command :=
  [.initSum, .define "key", .initSum, .loop "c" "key", .accumulate "c", .accumulate "c",
    .setInput "key" "ab", .initSum, .accumulate "d", .accumulate "c", .return 8, .accumulate "c",
    .accumulate "c"]

theorem rewritten_described :
    ∃ sum, (reached Hash.perform (.initial 8) rewritten).sum = some sum ∧
      sum.toNat = min Word.greatest64
        (rounds (carriedOut (history Hash.perform (.initial 8) rewritten)) *
          codeSum (reached Hash.perform (.initial 8) rewritten).input) ∧
      sum = 585 ∧
      ∃ event ∈ history Hash.perform (.initial 8) rewritten,
        event.command = .define "key" ∧ (∃ effect, event.outcome = .ok effect) ∧
          event.after.sum = none := by
  obtain ⟨hsum, hevents⟩ := sum_describes_input 8 rewritten
  have hfinal : (reached Hash.perform (.initial 8) rewritten).sum = some 585 := by decide +kernel
  refine ⟨585, hfinal, hsum 585 hfinal, rfl, ?_⟩
  have hdefine : ∃ event ∈ history Hash.perform (.initial 8) rewritten,
      event.command = .define "key" ∧ ∃ effect, event.outcome = .ok effect :=
    ⟨_, .tail _ (.head _), happen_command _ _, _, rfl⟩
  obtain ⟨event, hevent, hcommand, effect, hok⟩ := hdefine
  exact ⟨event, hevent, hcommand, ⟨effect, hok⟩, (hevents event hevent effect hok).1 "key" hcommand⟩

end Microworlds.Proofs

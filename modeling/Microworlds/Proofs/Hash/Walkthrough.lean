import Microworlds.Proofs.Hash.Remainder

/-!
# The walkthrough and the call

A hash function can be written down line by line and run on a text, or it can be called. Each line opens
the way for the next one, whatever there was before, and both ways come to the same sum and to the same
result.
-/

namespace Microworlds.Proofs

/-! ### Lines that may be carried out -/

section Lines

variable {state : Hash.State}

lemma definedParam_of_some {param : String} (h : state.param = some param) :
    Hash.definedParam state = .ok param := by
  rw [Hash.definedParam, h]

lemma initializedSum_of_some {sum : UInt64} (h : state.sum = some sum) :
    Hash.initializedSum state = .ok sum := by
  rw [Hash.initializedSum, h]

variable (state)

lemma perform_setInput {name : String} (hname : state.param = some name) (value : String) :
    ∃ effect, Hash.perform (.setInput name value) state =
      .ok effect { state with input := value, sum := none, result := none } := by
  have hopen : (state.param.isSome && state.param != some name) = false := by simp [hname]
  simp only [Hash.perform, run_get, run_stopIf, hopen]
  exact ⟨_, rfl⟩

lemma perform_initSum {param : String} (hparam : state.param = some param) :
    ∃ effect, Hash.perform .initSum state =
      .ok effect { state with sum := some 0, result := none } := by
  simp only [Hash.perform, run_get, run_liftM, definedParam_of_some hparam]
  exact ⟨_, rfl⟩

lemma perform_loop {source : String} {sum : UInt64} (hparam : state.param = some source)
    (hsum : state.sum = some sum) (var : String) :
    ∃ effect, Hash.perform (.loop var source) state =
      .ok effect { state with loopVar := some var } := by
  have hopen : (source != source) = false := bne_self_eq_false source
  simp only [Hash.perform, run_get, run_liftM, run_stopIf, definedParam_of_some hparam,
    initializedSum_of_some hsum, hopen]
  exact ⟨_, rfl⟩

lemma perform_accumulate {var : String} {start : UInt64} (hvar : state.loopVar = some var)
    (hsum : state.sum = some start) :
    ∃ description, Hash.perform (.accumulate var) state =
      .ok ⟨description, (Hash.accumulate state.input start).2⟩
        { state with sum := some (Hash.accumulate state.input start).1 } := by
  have hopen : (state.loopVar != some var) = false := by simp [hvar]
  simp only [Hash.perform, run_get, run_liftM, run_stopIf, initializedSum_of_some hsum, hopen]
  exact ⟨_, rfl⟩

lemma perform_return {sum : UInt64} {modulus : Int64} (hsum : state.sum = some sum)
    (hmodulus : 0 < modulus) :
    ∃ effect, Hash.perform (.return modulus) state =
      .ok effect { state with result := some (sum % modulus.toUInt64) } := by
  have hopen : decide (modulus ≤ 0) = false := decide_eq_false (Int64.not_le.mpr hmodulus)
  simp only [Hash.perform, run_get, run_liftM, run_stopIf, initializedSum_of_some hsum, hopen]
  exact ⟨_, rfl⟩

end Lines

/-! ### The whole function -/

/-- The lines that define a function, give it a text and run it. -/
def walkthrough (param var text : String) (modulus : Int64) : List Hash.Command :=
  [.define param, .setInput param text, .initSum, .loop var param, .accumulate var, .return modulus]

/-- The modulus that a call divides by, as it is written behind `return`. -/
def writtenModulus (state : Hash.State) : Int64 :=
  .ofNat (max 1 state.modulus.toNat)

lemma toInt_writtenModulus (state : Hash.State) :
    (writtenModulus state).toInt = (max 1 state.modulus.toNat : Nat) := by
  have hlt := state.modulus.toNat_lt
  exact Int64.toInt_ofNat_of_lt (by omega)

lemma writtenModulus_pos (state : Hash.State) : 0 < writtenModulus state := by
  rw [Int64.lt_iff_toInt_lt, toInt_writtenModulus, Int64.toInt_zero]
  omega

lemma writtenModulus_eq (state : Hash.State) :
    (writtenModulus state).toUInt64 = Hash.callModulus state := by
  obtain ⟨hnat, -⟩ := toNat_of_pos (writtenModulus_pos state)
  apply UInt64.toNat_inj.mp
  rw [hnat, toInt_writtenModulus, Int.toNat_natCast, toNat_callModulus]

lemma walkthrough_succeeds (state : Hash.State) (param var text : String) :
    ∃ defined given begun looped description returned,
      Succeeds Hash.perform state (walkthrough param var text (writtenModulus state))
        [defined, given, begun, looped, ⟨description, (Hash.accumulate text 0).2⟩, returned]
        { state with
          param := some param
          input := text
          loopVar := some var
          sum := some (Hash.accumulate text 0).1
          result := some ((Hash.accumulate text 0).1 % Hash.callModulus state) } := by
  let start : Hash.State :=
    { state with param := some param, sum := none, loopVar := none, result := none }
  let supplied : Hash.State := { start with input := text }
  let begun : Hash.State := { supplied with sum := some 0 }
  let entered : Hash.State := { begun with loopVar := some var }
  let summed : Hash.State := { entered with sum := some (Hash.accumulate text 0).1 }
  obtain ⟨given, hgiven⟩ := perform_setInput start rfl text
  obtain ⟨zero, hzero⟩ := perform_initSum supplied rfl
  obtain ⟨looped, hlooped⟩ := perform_loop begun rfl rfl var
  obtain ⟨description, hadded⟩ := perform_accumulate entered rfl rfl
  obtain ⟨returned, hreturned⟩ := perform_return summed rfl (writtenModulus_pos state)
  rw [writtenModulus_eq] at hreturned
  have hdefined : Hash.perform (.define param) state = .ok _ start := rfl
  exact ⟨_, given, zero, looped, description, returned,
    .next hdefined (.next hgiven (.next hzero (.next hlooped (.next hadded
      (.next hreturned (.done _))))))⟩

/-- The walkthrough agrees with the call. Whatever the state, the six lines of a function succeed one
after the other, for any name of the parameter and of the loop variable and for any text. If the function
returns the remainder by the configured modulus, or by 1 if that is 0, they come to the input, the sum and
the result that a call with that text comes to, and the accumulation shows the steps of the call. -/
theorem walkthrough_agrees_with_call (state : Hash.State) (param var text : String) :
    let lines := walkthrough param var text (.ofNat (max 1 state.modulus.toNat))
    let final := reached Hash.perform state lines
    ∃ defined given begun looped added returned called after,
      (history Hash.perform state lines).map (·.outcome) =
        [.ok defined, .ok given, .ok begun, .ok looped, .ok added, .ok returned] ∧
      Hash.perform (.hashOf text) state = .ok called after ∧
      added.steps = called.steps ∧
      final.input = after.input ∧ final.sum = after.sum ∧ final.result = after.result := by
  intro lines final
  obtain ⟨defined, given, begun, looped, description, returned, hlines⟩ :=
    walkthrough_succeeds state param var text
  refine ⟨defined, given, begun, looped, _, returned, _, _, hlines.outcomes, rfl, rfl, ?_⟩
  rw [show final = _ from hlines.reached_eq]
  exact ⟨rfl, rfl, rfl⟩

end Microworlds.Proofs

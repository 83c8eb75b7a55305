import Microworlds.Proofs.Reached

/-!
# The analysis of replies

A host may hand in any marks of 32 bits for the last prompt. The analysis adds them up in 32 bits, so it
breaks down exactly when their sum does not fit. No other command of a chat breaks down, and an analysis
that succeeds states the mean and the tier of the exact sum.
-/

namespace Microworlds.Proofs

open AiChat

/-- The sum of the marks as a number without a limit. -/
def exactTotal (quality : Quality) : Nat :=
  quality.clarity.toNat + quality.specificity.toNat + quality.context.toNat

/-- The tier of a sum of marks that has no limit. -/
def exactTier (total : Nat) : Tier :=
  if 210 < total then .high else if 120 < total then .medium else .low

/-- What an analysis says that states the mean, rounded down, and the tier of the exact sum. -/
def exactAnalysis (quality : Quality) : Effect :=
  let average := exactTotal quality / 3
  let rank := (exactTier (exactTotal quality)).name
  .plain s!"response quality: average {average} ({rank})"

variable {quality : Quality} {state : AiChat.State}

lemma total_of_lt (h : exactTotal quality < 2 ^ 32) :
    ∃ sum, total quality = .ok sum ∧ sum.toNat = exactTotal quality := by
  have hle : quality.clarity.toNat + quality.specificity.toNat + quality.context.toNat ≤
      Word.greatest32 := Nat.le_of_lt_succ h
  have htotal : quality.total? = some (UInt32.ofNat (exactTotal quality)) := if_pos hle
  refine ⟨UInt32.ofNat (exactTotal quality), ?_, UInt32.toNat_ofNat_of_lt' h⟩
  unfold total
  rw [htotal]

lemma total_of_le (h : 2 ^ 32 ≤ exactTotal quality) : total quality = .error .overflow := by
  have hlt : ¬quality.clarity.toNat + quality.specificity.toNat + quality.context.toNat ≤
      Word.greatest32 := Nat.not_le_of_lt h
  have htotal : quality.total? = none := if_neg hlt
  unfold total
  rw [htotal]

lemma ofTotal_eq (sum : UInt32) : Tier.ofTotal sum = exactTier sum.toNat := rfl

lemma analyze_eq (state : AiChat.State) : perform .analyze state =
    match answeredQuality? state with
    | none => .error (.refused (.invalid "no response to analyze")) state
    | some quality =>
      match total quality with
      | .error e => .error e state
      | .ok sum =>
        let average := sum / 3
        let rank := (Tier.ofTotal sum).name
        .ok (.plain s!"response quality: average {average} ({rank})") state := by
  change (Handler.required _ (answeredQuality? state) >>= _ : Handler Stop AiChat.State Effect) state = _
  cases answeredQuality? state with
  | none => rfl
  | some quality =>
    change (liftM (total quality) >>= _ : Handler Stop AiChat.State Effect) state = _
    rw [run_liftM]
    dsimp only
    cases total quality <;> rfl

lemma analyze_of_lt (h : answeredQuality? state = some quality) (hlt : exactTotal quality < 2 ^ 32) :
    perform .analyze state = .ok (exactAnalysis quality) state := by
  obtain ⟨sum, hsum, hexact⟩ := total_of_lt hlt
  have haverage : (sum / 3).toNat = exactTotal quality / 3 := by
    rw [UInt32.toNat_div, hexact]
    rfl
  rw [analyze_eq, h]
  simp only [hsum, exactAnalysis, ofTotal_eq, hexact, ← haverage]
  rfl

lemma analyze_of_le (h : answeredQuality? state = some quality) (hle : 2 ^ 32 ≤ exactTotal quality) :
    perform .analyze state = .error .overflow state := by
  rw [analyze_eq, h]
  simp only [total_of_le hle]

lemma analyze_unanswered (h : answeredQuality? state = none) :
    perform .analyze state = .error (.refused (.invalid "no response to analyze")) state := by
  rw [analyze_eq, h]

lemma others_end {command : AiChat.Command} (h : command ≠ .analyze) :
    Keeps (fun _ => True) (· ≠ .overflow) (perform command) := by
  cases command with
  | analyze => exact absurd rfl h
  | setMode word => exact keeps_required (fun _ _ => keeps_change (fun _ _ => trivial) _) nofun
  | ask prompt =>
    obtain ⟨sum, hsum⟩ := assess_fits prompt
    refine (keeps_stopIf nofun).bind fun _ => keeps_liftM (fun _ _ => ?_) fun e he => ?_
    · exact keeps_get fun _ _ => keeps_get fun _ _ => keeps_change (fun _ _ => trivial) _
    · rw [hsum] at he
      cases he
  | refine =>
    refine keeps_get fun _ _ => (keeps_stopIf nofun).bind fun _ => ?_
    exact (keeps_modify fun _ _ => trivial).bind fun _ => keeps_get fun _ _ => keeps_pure _

/-- In every state, whatever marks, history, advice and seed a host has put into it, a command breaks
down exactly if it is an analysis of marks whose sum needs more than 32 bits. An analysis succeeds
exactly if there are marks to analyse that have a sum of 32 bits; then it states the mean and the tier of
the exact sum and leaves the state as it was. -/
theorem analysis_exact_below_overflow (state : AiChat.State) (command : AiChat.Command) :
    ((∃ after, perform command state = .error .overflow after) ↔
      command = .analyze ∧
        ∃ quality, answeredQuality? state = some quality ∧ 2 ^ 32 ≤ exactTotal quality) ∧
    ∀ effect after, perform .analyze state = .ok effect after ↔
      after = state ∧ ∃ quality, answeredQuality? state = some quality ∧
        exactTotal quality < 2 ^ 32 ∧ effect = exactAnalysis quality := by
  constructor
  · constructor
    · rintro ⟨after, hover⟩
      have hanalyze : command = .analyze := by
        by_contra hother
        have hend := others_end hother state trivial
        rw [hover] at hend
        exact hend rfl
      subst hanalyze
      cases hmarks : answeredQuality? state with
      | none =>
        rw [analyze_unanswered hmarks] at hover
        cases hover
      | some quality =>
        refine ⟨rfl, quality, rfl, Nat.not_lt.mp fun hlt => ?_⟩
        rw [analyze_of_lt hmarks hlt] at hover
        cases hover
    · rintro ⟨rfl, quality, hmarks, hle⟩
      exact ⟨state, analyze_of_le hmarks hle⟩
  · intro effect after
    constructor
    · intro hsuccess
      cases hmarks : answeredQuality? state with
      | none =>
        rw [analyze_unanswered hmarks] at hsuccess
        cases hsuccess
      | some quality =>
        by_cases hlt : exactTotal quality < 2 ^ 32
        · rw [analyze_of_lt hmarks hlt] at hsuccess
          cases hsuccess
          exact ⟨rfl, quality, rfl, hlt, rfl⟩
        · rw [analyze_of_le hmarks (Nat.not_lt.mp hlt)] at hsuccess
          cases hsuccess
    · rintro ⟨rfl, quality, hmarks, hlt, rfl⟩
      exact analyze_of_lt hmarks hlt

/-- The greatest mark and one more point need 33 bits. -/
example : perform .analyze ⟨.brainstorm, [⟨.user, "hi"⟩, ⟨.assistant, "ok"⟩], some ⟨4294967295, 1, 0⟩,
    [], false, 7⟩ = .error .overflow ⟨.brainstorm, [⟨.user, "hi"⟩, ⟨.assistant, "ok"⟩],
      some ⟨4294967295, 1, 0⟩, [], false, 7⟩ := rfl

end Microworlds.Proofs

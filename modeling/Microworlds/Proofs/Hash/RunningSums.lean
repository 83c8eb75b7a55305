import Microworlds.Proofs.Hash.Sum

/-!
# Running sums

An addition goes on from the sum it has come to, so a text may as well be added up part by part. The step
of a character shows the sum of the text up to this character, and the last step shows the whole sum.
-/

namespace Microworlds.Proofs

/-! ### Characters -/

section Characters

variable (start : UInt64)

lemma accumulateFrom_append (cs more : List Char) :
    Hash.accumulateFrom start (cs ++ more) =
      ((Hash.accumulateFrom (Hash.accumulateFrom start cs).1 more).1,
        (Hash.accumulateFrom start cs).2 ++
          (Hash.accumulateFrom (Hash.accumulateFrom start cs).1 more).2) := by
  induction cs generalizing start with
  | nil => rfl
  | cons c rest ih => rw [List.cons_append, accumulateFrom_cons, ih, accumulateFrom_cons, List.cons_append]

lemma length_accumulateFrom (cs : List Char) :
    (Hash.accumulateFrom start cs).2.length = cs.length := by
  induction cs generalizing start with
  | nil => rfl
  | cons c rest ih =>
    rw [accumulateFrom_cons, List.length_cons, List.length_cons, ih]

lemma getElem?_accumulateFrom (cs : List Char) (k : Nat) :
    (Hash.accumulateFrom start cs).2[k]? =
      cs[k]?.map fun c => .accumulate c c.val (Hash.accumulateFrom start (cs.take (k + 1))).1 := by
  induction cs generalizing start k with
  | nil => rfl
  | cons c rest ih =>
    cases k with
    | zero => rfl
    | succ k =>
      rw [accumulateFrom_cons, List.getElem?_cons_succ, List.getElem?_cons_succ, ih]
      rfl

lemma getLast?_accumulateFrom (cs : List Char) :
    (Hash.accumulateFrom start cs).2.getLast? =
      cs.getLast?.map fun c => .accumulate c c.val (Hash.accumulateFrom start cs).1 := by
  obtain rfl | ⟨front, c, rfl⟩ := cs.eq_nil_or_concat'
  · rfl
  · rw [accumulateFrom_append, List.getLast?_concat]
    exact List.getLast?_concat

end Characters

/-! ### Texts -/

/-- Every running sum is recorded. An addition shows one step for each character, in their order. The
step of a character carries the character, its code point, and the start with the code points of all
characters up to it, or the greatest number if that is more. The last step shows the sum that comes out;
without a character that is the start. A text with another one behind it is added up as the first text
and then, from its sum, as the second one. -/
theorem running_sums_recorded (text : String) (start : UInt64) :
    let sum := (Hash.accumulate text start).1
    let steps := (Hash.accumulate text start).2
    steps.length = text.length ∧
    (∀ k c, text.toList[k]? = some c → ∃ running,
      steps[k]? = some (.accumulate c c.val running) ∧
      running.toNat =
        min Word.greatest64 (start.toNat + ((text.toList.take (k + 1)).map Char.toNat).sum)) ∧
    steps.getLast? = text.toList.getLast?.map (fun c => .accumulate c c.val sum) ∧
    Hash.accumulate "" start = (start, []) ∧
    ∀ more, Hash.accumulate (text ++ more) start =
      ((Hash.accumulate more sum).1, steps ++ (Hash.accumulate more sum).2) := by
  intro sum steps
  refine ⟨?_, fun k c hc => ?_, getLast?_accumulateFrom start text.toList, rfl, fun more => ?_⟩
  · rw [← String.length_toList]
    exact length_accumulateFrom start text.toList
  · have hstep := getElem?_accumulateFrom start text.toList k
    rw [hc] at hstep
    exact ⟨_, hstep, toNat_accumulateFrom start _⟩
  · change Hash.accumulateFrom start (text ++ more).toList = _
    rw [String.toList_append, accumulateFrom_append]
    rfl

/-- The sum comes to the end of the range at `é` and is still there at `b`. -/
theorem running_sums_stopped :
    "aéb".toList[2]? = some 'b' ∧ ∃ running,
      (Hash.accumulate "aéb" 18446744073709551515).2[2]? = some (.accumulate 'b' 98 running) ∧
      running = 18446744073709551615 := by
  obtain ⟨-, hsteps, -⟩ := running_sums_recorded "aéb" 18446744073709551515
  have hb : "aéb".toList[2]? = some 'b' := by decide
  obtain ⟨running, hstep, hrunning⟩ := hsteps 2 'b' hb
  have hlimit : min Word.greatest64 ((18446744073709551515 : UInt64).toNat +
      (("aéb".toList.take 3).map Char.toNat).sum) = Word.greatest64 := by decide
  exact ⟨hb, running, hstep, UInt64.toNat_inj.mp (hrunning.trans hlimit)⟩

end Microworlds.Proofs

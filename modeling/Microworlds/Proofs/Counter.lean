import Microworlds.Counter
import Mathlib.Tactic.Lemma

/-!
# Counters in exact numbers

What the operations on counters do to them as natural numbers. An addition ends at the greatest number,
a subtraction at zero.
-/

namespace Microworlds.Proofs

lemma toNat_add (a b : UInt64) :
    (Counter.add a b).toNat = min Word.greatest64 (a.toNat + b.toNat) := by
  unfold Counter.add Word.uint64?
  split
  · next h =>
    have hlt : a.toNat + b.toNat < UInt64.size := Nat.lt_succ_of_le h
    rw [Option.getD_some, UInt64.toNat_ofNat_of_lt' hlt]
    omega
  · next h =>
    have hgreatest : (UInt64.ofNat Word.greatest64).toNat = Word.greatest64 := rfl
    rw [Option.getD_none, hgreatest]
    omega

lemma toNat_sub (a b : UInt64) : (Counter.sub a b).toNat = a.toNat - b.toNat := by
  unfold Counter.sub
  split
  · next h => exact UInt64.toNat_sub_of_le a b h
  · next h =>
    have hlt : a.toNat < b.toNat := by
      rw [UInt64.le_iff_toNat_le] at h
      omega
    have hzero : (0 : UInt64).toNat = 0 := rfl
    omega

lemma sum?_of_le {a b : UInt32} (h : a.toNat + b.toNat ≤ Word.greatest32) :
    ∃ sum, Counter.sum? a b = some sum ∧ sum.toNat = a.toNat + b.toNat := by
  have hlt : a.toNat + b.toNat < UInt32.size := Nat.lt_succ_of_le h
  unfold Counter.sum? Word.uint32?
  exact ⟨_, if_pos h, UInt32.toNat_ofNat_of_lt' hlt⟩

lemma sum?_of_gt {a b : UInt32} (h : Word.greatest32 < a.toNat + b.toNat) :
    Counter.sum? a b = none :=
  if_neg (Nat.not_le.mpr h)

lemma toNat_next (a : UInt32) : (Counter.next a).toNat = min Word.greatest32 (a.toNat + 1) := by
  have hone : (1 : UInt32).toNat = 1 := rfl
  have ha : a.toNat ≤ Word.greatest32 := Nat.le_of_lt_succ a.toNat_lt_size
  unfold Counter.next Counter.sum? Word.uint32?
  rw [hone]
  split
  · next h =>
    have hlt : a.toNat + 1 < UInt32.size := Nat.lt_succ_of_le h
    rw [Option.getD_some, UInt32.toNat_ofNat_of_lt' hlt]
    omega
  · next h =>
    rw [Option.getD_none]
    omega

lemma toNat_reduce (a b : UInt32) : (Counter.reduce a b).toNat = a.toNat - b.toNat := by
  unfold Counter.reduce
  split
  · next h => exact UInt32.toNat_sub_of_le a b h
  · next h =>
    have hlt : a.toNat < b.toNat := by
      rw [UInt32.le_iff_toNat_le] at h
      omega
    have hzero : (0 : UInt32).toNat = 0 := rfl
    omega

end Microworlds.Proofs

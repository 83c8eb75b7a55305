import Microworlds.Proofs.Decimal.Bits
import Microworlds.Proofs.Decimal.Quotient
import Microworlds.Proofs.Decimal.Rounded

/-!
# The values of whole numbers

Whichever way a whole number is converted, it is shifted to the left until it has places enough, and then
it is rounded. So its value is the number rounded to 53 places.
-/

namespace Microworlds.Proofs

open Decimal (roundRatio)
open Float.Model (Format UnpackedFloat totalExponent)
open Float.Model.UnpackedFloat hiding Sign round normalize

variable {n : Nat}

/-! ### Rounding -/

/-- What is shifted out of a mantissa is kept by its two last bits. -/
lemma shifted_bits (q k : Nat) :
    ((ExtendedMantissa.ofMantissaAndAccuracy q .exact >>> k).roundBit = true ↔
      2 ^ k ≤ 2 * (q % 2 ^ k)) ∧
    ((ExtendedMantissa.ofMantissaAndAccuracy q .exact >>> k).stickyBit = true ↔
      2 * (q % 2 ^ k) ≠ 0 ∧ 2 * (q % 2 ^ k) ≠ 2 ^ k) := by
  induction k with
  | zero =>
    change (false = true ↔ _) ∧ (false = true ↔ _)
    simp [Nat.mod_one]
  | succ k ih =>
    obtain ⟨em, hem⟩ : ∃ em, em = ExtendedMantissa.ofMantissaAndAccuracy q .exact >>> k := ⟨_, rfl⟩
    have hmantissa : em.mantissa = q / 2 ^ k := by
      rw [hem, mantissa_shiftRight]
      rfl
    have hnext : ExtendedMantissa.ofMantissaAndAccuracy q .exact >>> (k + 1) = em.shiftRightOne := by
      rw [hem]
      rfl
    rw [← hem] at ih
    have hrest : q % 2 ^ (k + 1) = q % 2 ^ k + 2 ^ k * (q / 2 ^ k % 2) := Nat.mod_pow_succ
    have hlt : q % 2 ^ k < 2 ^ k := Nat.mod_lt _ (Nat.two_pow_pos k)
    rw [hnext, hrest, Nat.pow_succ]
    simp only [ExtendedMantissa.shiftRightOne, Bool.or_eq_true, ih.1, ih.2, hmantissa]
    have hbit : q / 2 ^ k % 2 = 0 ∨ q / 2 ^ k % 2 = 1 := by omega
    rcases hbit with hbit | hbit <;> rw [hbit] <;> simp <;> omega

lemma roundedMantissa_shiftRight (q k : Nat) :
    (ExtendedMantissa.ofMantissaAndAccuracy q .exact >>> k).roundedMantissa =
      roundRatio q (2 ^ k) := by
  obtain ⟨hround, hsticky⟩ := shifted_bits q k
  have hmantissa := mantissa_shiftRight (ExtendedMantissa.ofMantissaAndAccuracy q .exact) k
  rw [mantissa_ofMantissaAndAccuracy] at hmantissa
  generalize ExtendedMantissa.ofMantissaAndAccuracy q .exact >>> k = em at *
  obtain ⟨m, round, sticky⟩ := em
  dsimp only at hround hsticky hmantissa
  unfold roundRatio
  rw [← hmantissa]
  have hpos : 0 < 2 ^ k := Nat.two_pow_pos k
  cases round <;> cases sticky <;>
    simp only [ExtendedMantissa.roundedMantissa, ExtendedMantissa.accuracy,
      Accuracy.roundToNearestEven, Bool.false_eq_true, false_iff, true_iff] at hround hsticky ⊢
  all_goals
    split
    · omega
    · split <;> omega

lemma round_shifted {j : Nat} (sign : UnpackedFloat.Sign) (hn : n ≠ 0) (hj : 52 ≤ n.log2 + j) :
    ∃ h, roundWithAccuracy Format.binary64 sign (n * 2 ^ j) (-(j : Int)) .exact =
      .finite sign (leading (rounded n)) ((rounded n).log2 - 52 : Int) h := by
  have hlog := log2_mul_two_pow hn j
  obtain ⟨r, hr⟩ : ∃ r, r = roundRatio (n * 2 ^ j) (2 ^ (n.log2 + j - 52)) := ⟨_, rfl⟩
  have hplaces := roundRatio_shifted hn hj
  rw [← hr] at hplaces
  obtain ⟨-, hrlog, hpos, hround⟩ :=
    roundWithAccuracy_of_long (e := -(j : Int)) sign .exact (hlog ▸ hj) (by omega)
      (hr.trans (hlog ▸ (roundedMantissa_shiftRight _ _).symm))
  have hrpos : r ≠ 0 := by
    rintro rfl
    exact absurd hrlog (by decide)
  have hlogs : r.log2 + n.log2 = (rounded n).log2 + 52 := by
    rw [← log2_mul_two_pow hrpos, hplaces, log2_mul_two_pow (rounded_ne_zero hn)]
  have hmantissa : r / 2 ^ (r.log2 - 52) = leading (rounded n) := by
    rw [leading, ← hplaces, show (rounded n).log2 = r.log2 - 52 + n.log2 by omega, Nat.pow_add,
      Nat.mul_div_mul_right _ _ (Nat.two_pow_pos _)]
  have hexponent : -(j : Int) + ((n * 2 ^ j).log2 - 52 : Nat) + (r.log2 - 52 : Nat) =
      ((rounded n).log2 - 52 : Int) := by
    omega
  simp only [hmantissa, hexponent] at hpos hround
  exact ⟨hpos, hround⟩

/-! ### The conversion -/

lemma mul_finite {m k : Nat} {e f : Int} (hm : 0 < m) (hk : 0 < k) :
    mul Format.binary64 (.finite .positive m e hm) (.finite .positive k f hk) =
      roundWithAccuracy Format.binary64 .positive (m * k) (e + f) .exact := rfl

lemma unpack_one : (Float.ofBits 0x3FF0000000000000).toModel.unpack =
    .finite .positive (2 ^ 52) (-52) (Nat.two_pow_pos 52) := rfl

lemma ofScientific_whole (hn : n ≠ 0) : ofScientific Format.binary64 n 0 =
    roundWithAccuracy Format.binary64 .positive (n * 2 ^ 53) (-(53 : Nat)) .exact := by
  have htop : ¬ (0 : Int) > 2 ^ Format.binary64.exponentBits := by decide
  have hbottom : ¬ (0 : Int) < -((2 ^ Format.binary64.exponentBits : Int) + n.log2) := by
    have hpow : (0 : Int) < 2 ^ Format.binary64.exponentBits := by decide
    omega
  have hmantissa : n <<< Format.binary64.mantissaBits * 10 ^ (0 : Int).toNat = n * 2 ^ 53 := by
    rw [Int.toNat_zero, Nat.pow_zero, Nat.mul_one, Nat.shiftLeft_eq]
    rfl
  have hexponent : -(Format.binary64.mantissaBits : Int) + 0 = -(53 : Nat) := by decide
  unfold ofScientific
  rw [dif_neg hn, if_neg htop, if_neg hbottom, if_pos (Int.le_refl 0), mul_finite]
  rw [hmantissa, hexponent]

section Conversion

variable (hn : n ≠ 0) (hlarge : n < 2 ^ 64)

include hn hlarge

lemma log2_rounded_le : (rounded n).log2 ≤ 64 := by
  have hlog : n.log2 < 64 := (Nat.log2_lt hn).mpr hlarge
  have hle := rounded_le hn
  have hlt : (rounded n).log2 < n.log2 + 2 := by
    rw [Nat.log2_lt (rounded_ne_zero hn)]
    exact Nat.lt_of_le_of_lt hle (Nat.pow_lt_pow_right (by decide) (by omega))
  omega

lemma unpack_pack_of_shifted {j : Nat} {model : UnpackedFloat} (sign : UnpackedFloat.Sign)
    (hj : 52 ≤ n.log2 + j)
    (h : model = roundWithAccuracy Format.binary64 sign (n * 2 ^ j) (-(j : Int)) .exact) :
    ∃ hpos, unpack Format.binary64 (pack Format.binary64 model) =
      .finite sign (leading (rounded n)) ((rounded n).log2 - 52 : Int) hpos := by
  obtain ⟨hpos, hround⟩ := round_shifted sign hn hj
  have hlog := log2_rounded_le hn hlarge
  refine ⟨hpos, ?_⟩
  rw [h, hround]
  exact unpack_pack_of_full sign hpos (leading_bounds (rounded_ne_zero hn)) (by omega)

lemma unpack_toFloat : ∃ hpos, n.toUInt64.toFloat.toModel.unpack =
    .finite .positive (leading (rounded n)) ((rounded n).log2 - 52 : Int) hpos := by
  have hvalue : n.toUInt64.toNat = n := Nat.mod_eq_of_lt hlarge
  have htarget : Format.binary64.targetExponent (totalExponent n 0) = n.log2 - 52 := by
    simp only [Format.targetExponent, totalExponent, Format.mantissaBits, Format.minExponent]
    omega
  have hshift : (-((n.log2 : Int) - 52)).toNat = 52 - n.log2 := by omega
  refine unpack_pack_of_shifted hn hlarge .positive (j := 52 - n.log2) (by omega) ?_
  change UnpackedFloat.normalize Format.binary64 (n.toUInt64.toNat : Int) 0 .positive = _
  rw [hvalue]
  unfold UnpackedFloat.normalize
  rw [compare_gt_iff_gt.mpr (by omega : (n : Int) > 0)]
  simp only [UnpackedFloat.round, decreaseExponent, Int.toNat_natCast, htarget, Nat.shiftLeft_eq,
    hshift, Int.zero_sub]

lemma unpack_ofNat : ∃ hpos, (Float.ofNat n).toModel.unpack =
    .finite .positive (leading (rounded n)) ((rounded n).log2 - 52 : Int) hpos := by
  change ∃ hpos, (Float.ofScientific n false 0).toModel.unpack = .finite .positive _ _ hpos
  unfold Float.ofScientific
  split
  · next hshort =>
    -- the value of the number is exact already, and it is multiplied by one
    have hlog : n.log2 < 53 := (Nat.log2_lt hn).mpr hshort.1
    have hproduct : leading (rounded n) * 2 ^ 52 = n * 2 ^ (104 - n.log2) := by
      have hexact := leading_mul hn
      rw [rounded_eq_of_lt hshort.1] at hexact ⊢
      refine Nat.eq_of_mul_eq_mul_right (Nat.two_pow_pos n.log2) ?_
      rw [Nat.mul_right_comm, hexact, Nat.mul_assoc, Nat.mul_assoc, ← Nat.pow_add, ← Nat.pow_add,
        Nat.sub_add_cancel (by omega)]
    have hexponent : ((rounded n).log2 - 52 : Int) + -52 = -(104 - n.log2 : Nat) := by
      rw [rounded_eq_of_lt hshort.1]
      omega
    obtain ⟨hpos, hvalue⟩ := unpack_toFloat hn hlarge
    refine unpack_pack_of_shifted hn hlarge .positive (j := 104 - n.log2) (by omega) ?_
    rw [hvalue, ← hproduct, ← hexponent]
    exact (congrArg _ unpack_one).trans (mul_finite hpos (Nat.two_pow_pos 52))
  · refine unpack_pack_of_shifted hn hlarge .positive (j := 53) (by omega) ?_
    exact ofScientific_whole hn

end Conversion

/-- The value of a whole number that is not zero, from its sign and its size. -/
def valueOf (negative : Bool) (n : Nat) : Decimal.Binary :=
  ⟨negative, leading (rounded n), (rounded n).log2 - 52⟩

lemma ofFloat_ofInt {z : Int} (hz : z ≠ 0) (hlarge : z.natAbs < 2 ^ 64) :
    Decimal.Binary.ofFloat (Float.ofInt z) = some (valueOf (decide (z < 0)) z.natAbs) := by
  have hn : z.natAbs ≠ 0 := Int.natAbs_ne_zero.mpr hz
  obtain ⟨hpos, hvalue⟩ := unpack_ofNat hn hlarge
  cases z with
  | ofNat n =>
    rw [decide_eq_false (Int.not_lt.mpr (Int.natCast_nonneg n) : ¬ Int.ofNat n < 0), valueOf]
    exact ofFloat_of_finite hvalue
  | negSucc n =>
    have hlog := log2_rounded_le hn hlarge
    have hnegated : (Float.ofInt (.negSucc n)).toModel.unpack =
        unpack Format.binary64 (pack Format.binary64
          (Float.ofNat (n + 1)).toModel.unpack.neg) := rfl
    rw [decide_eq_true (Int.negSucc_lt_zero n), valueOf]
    rw [show (Float.ofNat (n + 1)).toModel.unpack = _ from hvalue] at hnegated
    exact ofFloat_of_finite (hnegated.trans (unpack_pack_of_full .negative hpos
      (leading_bounds (rounded_ne_zero hn)) (by omega)))

lemma ofFloat_zero : Decimal.Binary.ofFloat (Float.ofInt 0) = some ⟨false, 0, -1074⟩ := by
  decide +kernel

end Microworlds.Proofs

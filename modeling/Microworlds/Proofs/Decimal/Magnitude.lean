import Microworlds.Decimal.Binary
import Mathlib

/-!
# Small numbers stay finite

A finite number is below a power of two in size. The sum and the product of such numbers are below a
power that is not much greater, and what is below `2 ^ 900` is finite.
-/

namespace Microworlds.Proofs

open Float.Model (Format UnpackedFloat totalExponent)
open Float.Model.UnpackedFloat hiding Sign round normalize

/-- A number that is finite and less than `2 ^ bound` in size. -/
inductive Below (bound : Int) : UnpackedFloat → Prop where
  | zero (sign : UnpackedFloat.Sign) : Below bound (.zero sign)
  | finite {sign : UnpackedFloat.Sign} {mantissa : Nat} {exponent : Int} {h : 0 < mantissa}
    (k : Nat) (hk : mantissa < 2 ^ k) (hbound : k + exponent ≤ bound) :
    Below bound (.finite sign mantissa exponent h)

lemma Below.mono {b c : Int} {x : UnpackedFloat} (h : Below b x) (hbc : b ≤ c) : Below c x := by
  cases h with
  | zero sign => exact .zero sign
  | finite k hk hb => exact .finite k hk (by omega)

/-! ### Rounding -/

lemma mantissa_shiftRight (em : ExtendedMantissa) (n : Nat) :
    (em >>> n).mantissa = em.mantissa / 2 ^ n := by
  induction n with
  | zero => exact (Nat.div_one em.mantissa).symm
  | succ n ih =>
    change (em >>> n).mantissa / 2 = _
    rw [ih, Nat.div_div_eq_div_mul, Nat.pow_succ]

lemma roundedMantissa_le (em : ExtendedMantissa) : em.roundedMantissa ≤ em.mantissa + 1 := by
  obtain ⟨m, half, sticky⟩ := em
  cases half <;> cases sticky <;>
    simp only [ExtendedMantissa.roundedMantissa, ExtendedMantissa.accuracy,
      Accuracy.roundToNearestEven] <;> omega

lemma div_lt_two_pow {m k n : Nat} (h : m < 2 ^ k) : m / 2 ^ n < 2 ^ (k - n) := by
  rw [Nat.div_lt_iff_lt_mul (Nat.two_pow_pos n), ← Nat.pow_add]
  exact Nat.lt_of_lt_of_le h (Nat.pow_le_pow_right (by decide) (by omega))

lemma below_shifted {b e : Int} {sign : UnpackedFloat.Sign} {m k n : Nat} (h : m < 2 ^ k)
    (hb : k + e ≤ b) (hpos : 0 < m / 2 ^ n) : Below b (.finite sign (m / 2 ^ n) (e + n) hpos) := by
  have hn : n ≤ k := by
    by_contra hn
    have hzero : m / 2 ^ n = 0 := by
      apply Nat.div_eq_of_lt
      exact Nat.lt_of_lt_of_le h (Nat.pow_le_pow_right (by decide) (by omega))
    omega
  exact .finite (k - n) (div_lt_two_pow h) (by omega)

lemma rounded_lt {b e : Int} (hb : 0 ≤ b) {m k : Nat} (hm : 0 < m) (h : m < 2 ^ k) (hk : k + e ≤ b)
    {n : Nat} (hn : n = (Format.binary64.targetExponent (totalExponent m e) - e).toNat) :
    ∃ j : Nat, m / 2 ^ n + 1 < 2 ^ j ∧ j + (e + n) ≤ b + 1 := by
  by_cases hsmall : n ≤ k
  · have hdiv := div_lt_two_pow (n := n) h
    exact ⟨k - n + 1, Nat.lt_of_le_of_lt hdiv (Nat.pow_lt_pow_succ (by decide)), by omega⟩
  · -- the number is shifted out, so its last bit is the last one there is
    have hlog : m.log2 < k := (Nat.log2_lt hm.ne').mpr h
    have hzero : m / 2 ^ n = 0 := by
      apply Nat.div_eq_of_lt
      exact Nat.lt_of_lt_of_le h (Nat.pow_le_pow_right (by decide) (by omega))
    have htarget : e + n = -1074 := by
      simp only [Format.targetExponent, totalExponent, Format.mantissaBits,
        Format.minExponent] at hn
      omega
    exact ⟨1, by omega, by omega⟩

lemma mantissa_ofMantissaAndAccuracy (m : Nat) (accuracy : Accuracy) :
    (ExtendedMantissa.ofMantissaAndAccuracy m accuracy).mantissa = m := by
  cases accuracy with
  | exact => rfl
  | inexact relative => cases relative <;> rfl

/-- A rounded number is below a bound if its mantissa is after the first shift, the carry included. -/
lemma below_of_rounded_lt {b e : Int} (sign : UnpackedFloat.Sign) {m n j : Nat} (accuracy : Accuracy)
    (hn : n = (Format.binary64.targetExponent (totalExponent m e) - e).toNat)
    (hj : m / 2 ^ n + 1 < 2 ^ j) (hb : j + (e + n) ≤ b) :
    Below b (roundWithAccuracy Format.binary64 sign m e accuracy) := by
  subst hn
  unfold roundWithAccuracy
  simp only [shiftToTargetExponent, shiftToExponent, mantissa_shiftRight]
  split
  · exact .zero sign
  · next hpos =>
    have hpos := Nat.pos_of_ne_zero hpos
    refine below_shifted ?_ hb hpos
    refine Nat.lt_of_le_of_lt (roundedMantissa_le _) ?_
    rwa [mantissa_shiftRight, mantissa_ofMantissaAndAccuracy]

lemma below_roundWithAccuracy {b e : Int} (hb : 0 ≤ b) (sign : UnpackedFloat.Sign) {m k : Nat}
    (hm : 0 < m) (h : m < 2 ^ k) (hk : k + e ≤ b) :
    Below (b + 1) (roundWithAccuracy Format.binary64 sign m e .exact) := by
  obtain ⟨j, hj, hjb⟩ := rounded_lt hb hm h hk rfl
  exact below_of_rounded_lt sign .exact rfl hj hjb

lemma below_round {b e : Int} (hb : 0 ≤ b) (sign : UnpackedFloat.Sign) {m k : Nat} (hm : 0 < m)
    (h : m < 2 ^ k) (hk : k + e ≤ b) :
    Below (b + 1) (UnpackedFloat.round Format.binary64 sign m e) := by
  unfold UnpackedFloat.round decreaseExponent
  apply below_roundWithAccuracy hb sign
  · rw [Nat.shiftLeft_eq]
    exact Nat.mul_pos hm (Nat.two_pow_pos _)
  · rw [Nat.shiftLeft_eq]
    exact Nat.mul_lt_mul_of_pos_right h (Nat.two_pow_pos _) |>.trans_eq (Nat.pow_add 2 k _).symm
  · omega

lemma below_normalize {b e : Int} (hb : 0 ≤ b) (sign : UnpackedFloat.Sign) {m : Int} {k : Nat}
    (h : m.natAbs < 2 ^ k) (hk : k + e ≤ b) :
    Below (b + 1) (UnpackedFloat.normalize Format.binary64 m e sign) := by
  unfold UnpackedFloat.normalize
  split
  · next hm =>
    have hm := compare_lt_iff_lt.mp hm
    exact below_round hb .negative (by omega) (by omega) hk
  · exact .zero sign
  · next hm =>
    have hm := compare_gt_iff_gt.mp hm
    exact below_round hb .positive (by omega) (by omega) hk

/-! ### Sums and products -/

lemma natAbs_apply (sign : UnpackedFloat.Sign) (m : Nat) : (sign.apply m).natAbs = m := by
  cases sign <;> simp [UnpackedFloat.Sign.apply]

lemma decreased_lt {m k : Nat} {e smaller bound : Int} (h : m < 2 ^ k) (hk : k + e ≤ bound)
    (hsmaller : smaller ≤ e) {j : Nat} (hj : bound ≤ j + smaller) :
    (decreaseExponent m e smaller).1 < 2 ^ j := by
  change m <<< (e - smaller).toNat < 2 ^ j
  rw [Nat.shiftLeft_eq]
  calc
    m * 2 ^ (e - smaller).toNat < 2 ^ k * 2 ^ (e - smaller).toNat :=
      Nat.mul_lt_mul_of_pos_right h (Nat.two_pow_pos _)
    _ = 2 ^ (k + (e - smaller).toNat) := (Nat.pow_add 2 k _).symm
    _ ≤ 2 ^ j := Nat.pow_le_pow_right (by decide) (by omega)

lemma below_add {b : Int} (hb : 0 ≤ b) {x y : UnpackedFloat} (hx : Below b x) (hy : Below b y) :
    Below (b + 2) (add Format.binary64 x y) := by
  cases hx with
  | zero sign =>
    cases hy with
    | zero other =>
      change Below (b + 2) (if sign == other then .zero sign else .zero .positive)
      split
      · exact .zero sign
      · exact .zero .positive
    | finite k hk hkb => exact .finite k hk (by omega)
  | @finite sign m e _ k hk hkb =>
    cases hy with
    | zero other => exact .finite k hk (by omega)
    | @finite other m' e' _ k' hk' hkb' =>
      let j := (b - min e e').toNat
      have hleft : (decreaseExponent m e (min e e')).1 < 2 ^ j :=
        decreased_lt hk hkb (by omega) (by omega)
      have hright : (decreaseExponent m' e' (min e e')).1 < 2 ^ j :=
        decreased_lt hk' hkb' (by omega) (by omega)
      have hpow : 2 ^ (j + 1) = 2 ^ j + 2 ^ j := by ring
      have hsum : (sign.apply (decreaseExponent m e (min e e')).1 +
          other.apply (decreaseExponent m' e' (min e e')).1).natAbs < 2 ^ (j + 1) := by
        refine Nat.lt_of_le_of_lt (Int.natAbs_add_le _ _) ?_
        rw [natAbs_apply, natAbs_apply]
        omega
      have hround :=
        below_normalize (b := b + 1) (e := min e e') (by omega) .positive hsum (by omega)
      exact hround.mono (by omega)

lemma below_mul {b c : Int} (hbc : 0 ≤ b + c) {x y : UnpackedFloat} (hx : Below b x)
    (hy : Below c y) : Below (b + c + 1) (mul Format.binary64 x y) := by
  cases hx with
  | zero sign =>
    cases hy with
    | zero other => exact .zero _
    | finite => exact .zero _
  | @finite sign m e hm k hk hkb =>
    cases hy with
    | zero other => exact .zero _
    | @finite other m' e' hm' k' hk' hkb' =>
      refine below_roundWithAccuracy hbc _ (Nat.mul_pos hm hm') (k := k + k') ?_ (by omega)
      rw [Nat.pow_add]
      exact Nat.mul_lt_mul'' hk hk'

/-! ### Numbers of 64 bits -/

lemma below_unpack {b : Int} (hb : 0 ≤ b) {bits : BitVec Format.binary64.numBits}
    (hfinite : (unpackExponent bits).toNat < 2047)
    (h : (unpackExponent bits).toNat = 0 ∨ (unpackExponent bits).toNat - 1022 ≤ b) :
    Below b (unpack Format.binary64 bits) := by
  have hne : unpackExponent bits ≠ -1#_ := by
    intro hall
    rw [hall] at hfinite
    exact absurd hfinite (by decide)
  unfold unpack
  simp only [if_neg hne]
  split
  · next hzero =>
    split
    · exact .zero _
    · refine .finite 52 (unpackMantissa bits).isLt ?_
      rw [hzero]
      simp only [Format.exponentBias, BitVec.toNat_ofNat]
      omega
  · next hzero =>
    have hpos : (unpackExponent bits).toNat ≠ 0 := fun h => hzero (BitVec.eq_of_toNat_eq h)
    refine .finite 53 (1#1 ++ unpackMantissa bits).isLt ?_
    simp only [Format.exponentBias]
    omega

lemma below_unpack_components {b : Int} (hb : 0 ≤ b) {sign : UnpackedFloat.Sign}
    {exponent : BitVec 11} {mantissa : BitVec 52} (hfinite : exponent.toNat < 2047)
    (h : exponent.toNat = 0 ∨ exponent.toNat - 1022 ≤ b) :
    Below b (unpack Format.binary64 (packComponents Format.binary64 sign exponent mantissa)) := by
  apply below_unpack hb
  · rwa [unpackExponent_packComponents]
  · rwa [unpackExponent_packComponents]

lemma below_unpack_pack {b : Int} (hb : 0 ≤ b) (hlimit : b ≤ 900) {x : UnpackedFloat}
    (h : Below b x) : Below b (unpack Format.binary64 (pack Format.binary64 x)) := by
  cases h with
  | zero sign => exact below_unpack_components hb (by decide) (.inl rfl)
  | @finite sign m e hm k hk hkb =>
    have hk0 : k ≠ 0 := by
      rintro rfl
      omega
    have hbiased : (e + 1023 + 52).toNat < 2047 := by omega
    have hexponent : (BitVec.ofNat 11 (e + 1023 + 52).toNat).toNat = (e + 1023 + 52).toNat := by
      rw [BitVec.toNat_ofNat, Nat.mod_eq_of_lt (by omega)]
    unfold pack
    simp only
    split
    · next hover =>
      simp only [Format.exponentBias] at hover
      omega
    · split
      · next hnormal =>
        apply below_unpack_components hb
        · exact hexponent.trans_lt hbiased
        · have hlog : 52 < k := by
            have hlog := (Nat.log2_lt hm.ne').mpr hk
            simp only [Format.mantissaBits] at hnormal
            omega
          change (BitVec.ofNat 11 (e + 1023 + 52).toNat).toNat = 0 ∨
            ((BitVec.ofNat 11 (e + 1023 + 52).toNat).toNat : Int) - 1022 ≤ b
          rw [hexponent]
          omega
      · exact below_unpack_components hb (by decide) (.inl rfl)

def IsFinite (x : Float) : Prop := x.isFinite = true

/-- Whether a number is finite and less than `2 ^ bound` in size. -/
def Small (bound : Nat) (x : Float) : Prop := Below bound x.toModel.unpack

lemma Small.isFinite {b : Nat} {x : Float} (h : Small b x) : IsFinite x := by
  have hfinite : ∀ model : UnpackedFloat, Below b model → model.isFinite = true := by
    intro model hmodel
    cases hmodel <;> rfl
  exact hfinite _ h

lemma Small.add {b : Nat} (hb : b ≤ 898) {x y : Float} (hx : Small b x) (hy : Small b y) :
    Small (b + 2) (x + y) :=
  below_unpack_pack (by omega) (by omega) (below_add (by omega) hx hy)

lemma Small.mul {b c : Nat} (h : b + c ≤ 899) {x y : Float} (hx : Small b x) (hy : Small c y) :
    Small (b + c + 1) (x * y) :=
  below_unpack_pack (by omega) (by omega) (below_mul (by omega) hx hy)

lemma Small.mono {b c : Nat} {x : Float} (h : Small b x) (hbc : b ≤ c) : Small c x :=
  Below.mono h (by omega)

lemma Small.neg {b : Nat} (hb : b ≤ 900) {x : Float} (h : Small b x) : Small b (-x) := by
  have hneg : ∀ model : UnpackedFloat, Below b model → Below b model.neg := by
    intro model hmodel
    cases hmodel with
    | zero sign => exact .zero _
    | finite k hk hkb => exact .finite k hk hkb
  exact below_unpack_pack (by omega) (by omega) (hneg _ h)

lemma small_of_exponent {b : Nat} {x : Float}
    (h : (@unpackExponent Format.binary64 x.toModel.toBits.toBitVec).toNat ≤ 1022 + b)
    (hb : b ≤ 900) : Small b x :=
  below_unpack (by omega) (by omega) (by omega)

lemma small_toFloat {n k : Nat} (h : n < 2 ^ k) (hk : k ≤ 64) :
    Small (k + 1) n.toUInt64.toFloat := by
  have hn : (n.toUInt64.toNat : Int).natAbs < 2 ^ k := Nat.lt_of_le_of_lt (Nat.mod_le _ _) h
  exact below_unpack_pack (by omega) (by omega)
    (below_normalize (b := k) (k := k) (by omega) .positive hn (by omega))

lemma below_ofScientific {n k : Nat} (h : n < 2 ^ k) :
    Below (k + 2) (ofScientific Format.binary64 n 0) := by
  unfold ofScientific
  split
  · exact .zero .positive
  · have hpow : (0 : Int) < 2 ^ Format.binary64.exponentBits := by decide
    have htop : ¬ (0 : Int) > 2 ^ Format.binary64.exponentBits := by omega
    have hbottom : ¬ (0 : Int) < -((2 ^ Format.binary64.exponentBits : Int) + n.log2) := by omega
    rw [if_neg htop, if_neg hbottom, if_pos (Int.le_refl 0)]
    have hmantissa : n <<< 53 < 2 ^ (k + 53) := by
      rw [Nat.shiftLeft_eq, Nat.pow_add]
      exact Nat.mul_lt_mul_of_pos_right h (by decide)
    have hexponent : ((k + 53 : Nat) : Int) + -(53 : Nat) ≤ k := by omega
    have hone : Below 1 (.finite .positive (10 ^ (0 : Int).toNat) 0 (Nat.pow_pos (by decide))) :=
      .finite 1 (by decide) (by decide)
    have hsum : (0 : Int) ≤ k + 1 := by omega
    have hbound : (k : Int) + 1 + 1 ≤ k + 2 := by omega
    exact (below_mul hsum (.finite (k + 53) hmantissa hexponent) hone).mono hbound

lemma small_ofNat {n k : Nat} (h : n < 2 ^ k) (hk : k ≤ 64) : Small (k + 3) (Float.ofNat n) := by
  have hone : Small 1 (Float.ofBits 0x3FF0000000000000) :=
    small_of_exponent (by decide +kernel) (by omega)
  change Small (k + 3) (Float.ofScientific n false 0)
  unfold Float.ofScientific
  split
  · exact (small_toFloat h hk).mul (by omega) hone
  · exact below_unpack_pack (by omega) (by omega) ((below_ofScientific h).mono (by omega))

lemma small_ofInt {n : Int} {k : Nat} (h : n.natAbs < 2 ^ k) (hk : k ≤ 64) :
    Small (k + 3) (Float.ofInt n) := by
  cases n with
  | ofNat n => exact small_ofNat h hk
  | negSucc n => exact (small_ofNat h hk).neg (by omega)

lemma small_ofInt64 (n : Int64) : Small 67 (Decimal.ofInt64 n) := by
  have hleast := n.le_toInt
  have hgreatest := n.toInt_lt
  exact small_ofInt (k := 64) (by omega) (by omega)

end Microworlds.Proofs

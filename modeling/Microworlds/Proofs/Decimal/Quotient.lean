import Microworlds.Proofs.Decimal.Magnitude

/-!
# How great quotients are

The quotient of positive numbers is worked out with some bits more than there is room for, and rounded.
A quotient that is less than the greatest number below a power of two stays below that power, and one
that reaches a power of two reaches it after rounding as well.
-/

namespace Microworlds.Proofs

open Float.Model (Format UnpackedFloat totalExponent)
open Float.Model.UnpackedFloat hiding Sign round normalize

/-! ### Positive numbers -/

/-- The number is `m * 2 ^ e`, and the mantissa is as long as it can be with an exponent that is not the
least one. -/
structure Measured (x : Float) (m : Nat) (e : Int) : Prop where
  unpacked : ∃ h, x.toModel.unpack = .finite .positive m e h
  short : m < 2 ^ 53
  full : 2 ^ 52 ≤ m ∨ e = -1074

lemma float_lt {x y : Float} :
    x < y ↔ x.toModel.unpack.compare y.toModel.unpack = some .lt := by
  change decide (_ = true) = true ↔ _
  rw [decide_eq_true_iff]
  change (_ == _) = true ↔ _
  rw [beq_iff_eq]

lemma leading_one_le (mantissa : BitVec 52) : 2 ^ 52 ≤ (1#1 ++ mantissa).toNat := by
  rw [BitVec.toNat_append]
  exact Nat.le_trans (by decide) Nat.left_le_or

lemma unpack_eq_finite {bits : BitVec Format.binary64.numBits} {sign : UnpackedFloat.Sign} {m : Nat}
    {e : Int} {h : 0 < m} (hunpack : unpack Format.binary64 bits = .finite sign m e h) :
    m < 2 ^ 53 ∧ (2 ^ 52 ≤ m ∨ e = -1074) := by
  unfold unpack at hunpack
  simp only at hunpack
  split at hunpack
  · split at hunpack <;> cases hunpack
  · split at hunpack
    · next hzero =>
      split at hunpack
      · cases hunpack
      · cases hunpack
        refine ⟨Nat.lt_trans (unpackMantissa bits).isLt (by decide), .inr ?_⟩
        rw [hzero]
        rfl
    · cases hunpack
      exact ⟨(1#1 ++ unpackMantissa bits).isLt, .inl (leading_one_le (unpackMantissa bits))⟩

lemma measured_of_pos {x : Float} (hfinite : IsFinite x) (hpos : 0 < x) : ∃ m e, Measured x m e := by
  have hzero : (0 : Float).toModel.unpack = .zero .positive := rfl
  rw [float_lt, hzero] at hpos
  change x.toModel.unpack.isFinite = true at hfinite
  cases hunpack : x.toModel.unpack with
  | infinity sign => rw [hunpack] at hfinite; cases hfinite
  | notANumber => rw [hunpack] at hfinite; cases hfinite
  | zero sign => rw [hunpack] at hpos; cases hpos
  | finite sign m e h =>
    cases sign with
    | negative => rw [hunpack] at hpos; cases hpos
    | positive =>
      obtain ⟨hshort, hfull⟩ := unpack_eq_finite hunpack
      exact ⟨m, e, ⟨h, hunpack⟩, hshort, hfull⟩

lemma Measured.lt_iff {x y : Float} {m n : Nat} {e f : Int} (hx : Measured x m e)
    (hy : Measured y n f) : x < y ↔ e < f ∨ e = f ∧ m < n := by
  obtain ⟨_, hx⟩ := hx.unpacked
  obtain ⟨_, hy⟩ := hy.unpacked
  rw [float_lt, hx, hy]
  change some ((compare e f).then (compare m n)) = some .lt ↔ _
  rw [Option.some_inj, Ordering.then_eq_lt, compare_lt_iff_lt, compare_lt_iff_lt,
    compare_eq_iff_eq]

/-! ### Rounding -/

lemma le_roundedMantissa (em : ExtendedMantissa) : em.mantissa ≤ em.roundedMantissa := by
  obtain ⟨m, half, sticky⟩ := em
  cases half <;> cases sticky <;>
    simp only [ExtendedMantissa.roundedMantissa, ExtendedMantissa.accuracy,
      Accuracy.roundToNearestEven] <;> omega

lemma below_round_of_lt {a q : Nat} {e : Int} (sign : UnpackedFloat.Sign) (accuracy : Accuracy)
    (ha : -1074 ≤ a + e) (hq : q + 2 ^ a < 2 ^ (a + 53)) :
    Below (a + 53 + e) (roundWithAccuracy Format.binary64 sign q e accuracy) := by
  obtain ⟨n, hn⟩ : ∃ n, n = (Format.binary64.targetExponent (totalExponent q e) - e).toNat := ⟨_, rfl⟩
  have hlog : q.log2 < a + 53 := by
    obtain rfl | hpos := Nat.eq_zero_or_pos q
    · rw [Nat.log2_zero]
      omega
    · exact (Nat.log2_lt hpos.ne').mpr (Nat.lt_of_le_of_lt (Nat.le_add_right q _) hq)
  have hshift : n ≤ a := by
    simp only [Format.targetExponent, totalExponent, Format.mantissaBits, Format.minExponent] at hn
    omega
  refine below_of_rounded_lt (j := a + 53 - n) sign accuracy hn ?_ (by omega)
  refine Nat.lt_of_mul_lt_mul_right (a := 2 ^ n) ?_
  calc
    (q / 2 ^ n + 1) * 2 ^ n = q / 2 ^ n * 2 ^ n + 2 ^ n := by ring
    _ ≤ q + 2 ^ a :=
      Nat.add_le_add (Nat.div_mul_le_self q _) (Nat.pow_le_pow_right (by decide) hshift)
    _ < 2 ^ (a + 53) := hq
    _ = 2 ^ (a + 53 - n) * 2 ^ n := by
      rw [← Nat.pow_add]
      congr 1
      omega

lemma shift_eq {m : Nat} {e : Int} (hm : 52 ≤ m.log2) (he : -1022 ≤ m.log2 + e) :
    (Format.binary64.targetExponent (totalExponent m e) - e).toNat = m.log2 - 52 := by
  simp only [Format.targetExponent, totalExponent, Format.mantissaBits, Format.minExponent]
  omega

lemma log2_div_two_pow {m k : Nat} (hm : m ≠ 0) (hk : k ≤ m.log2) :
    (m / 2 ^ k).log2 = m.log2 - k := by
  have hle : 2 ^ (m.log2 - k) ≤ m / 2 ^ k := by
    rw [Nat.le_div_iff_mul_le (Nat.two_pow_pos k), ← Nat.pow_add, Nat.sub_add_cancel hk]
    exact Nat.log2_self_le hm
  have hpos : m / 2 ^ k ≠ 0 := (Nat.lt_of_lt_of_le (Nat.two_pow_pos _) hle).ne'
  refine (Nat.log2_eq_iff hpos).mpr ⟨hle, ?_⟩
  rw [show m.log2 - k + 1 = m.log2 + 1 - k by omega]
  exact div_lt_two_pow Nat.lt_log2_self

lemma log2_rounded {q : Nat} (accuracy : Accuracy) (hq : 52 ≤ q.log2) :
    52 ≤ (ExtendedMantissa.ofMantissaAndAccuracy q accuracy >>> (q.log2 - 52)).roundedMantissa.log2 := by
  have hpos : q ≠ 0 := by
    rintro rfl
    exact absurd hq (by decide)
  have hlog : (q / 2 ^ (q.log2 - 52)).log2 = 52 := by
    rw [log2_div_two_pow hpos (by omega)]
    omega
  have hdiv : q / 2 ^ (q.log2 - 52) ≠ 0 := by
    intro hzero
    rw [hzero] at hlog
    cases hlog
  have hle : q / 2 ^ (q.log2 - 52) ≤
      (ExtendedMantissa.ofMantissaAndAccuracy q accuracy >>> (q.log2 - 52)).roundedMantissa := by
    refine Nat.le_trans (Nat.le_of_eq ?_) (le_roundedMantissa _)
    rw [mantissa_shiftRight, mantissa_ofMantissaAndAccuracy]
  have hleading : 2 ^ 52 ≤ q / 2 ^ (q.log2 - 52) := (Nat.le_log2 hdiv).mp hlog.ge
  rw [Nat.le_log2 (by omega)]
  exact Nat.le_trans hleading hle

/-- A long mantissa is shifted to 53 places and rounded, and shifted once more if it has a carry then. -/
lemma roundWithAccuracy_of_long {q r : Nat} {e : Int} (sign : UnpackedFloat.Sign)
    (accuracy : Accuracy) (hq : 52 ≤ q.log2) (he : -1022 ≤ q.log2 + e)
    (hr : r = (ExtendedMantissa.ofMantissaAndAccuracy q accuracy >>>
      (q.log2 - 52)).roundedMantissa) :
    (r / 2 ^ (r.log2 - 52)).log2 = 52 ∧ 52 ≤ r.log2 ∧
      ∃ h, roundWithAccuracy Format.binary64 sign q e accuracy =
        .finite sign (r / 2 ^ (r.log2 - 52)) (e + (q.log2 - 52 : Nat) + (r.log2 - 52 : Nat)) h := by
  have hlog := log2_rounded accuracy hq
  rw [← hr] at hlog
  have hshift := shift_eq (e := e + (q.log2 - 52 : Nat)) hlog (by omega)
  have hfinal : (r / 2 ^ (r.log2 - 52)).log2 = 52 := by
    rw [log2_div_two_pow (by rintro rfl; exact absurd hlog (by decide)) (by omega)]
    omega
  refine ⟨hfinal, hlog, ?_⟩
  unfold roundWithAccuracy
  simp only [shiftToTargetExponent, shiftToExponent, mantissa_shiftRight,
    mantissa_ofMantissaAndAccuracy, shift_eq hq he, ← hr, hshift]
  split
  · next hzero =>
    rw [hzero] at hfinal
    cases hfinal
  · next hpos => exact ⟨Nat.pos_of_ne_zero hpos, rfl⟩

lemma rounded_full {q : Nat} {e : Int} (sign : UnpackedFloat.Sign) (accuracy : Accuracy)
    (hq : 52 ≤ q.log2) (he : -1022 ≤ q.log2 + e) :
    ∃ m f h, roundWithAccuracy Format.binary64 sign q e accuracy = .finite sign m f h ∧
      m.log2 = 52 ∧ q.log2 + e ≤ 52 + f := by
  obtain ⟨hfinal, -, hpos, hround⟩ := roundWithAccuracy_of_long sign accuracy hq he rfl
  exact ⟨_, _, hpos, hround, hfinal, by omega⟩

/-! ### Quotients -/

section Quotient

variable {x y : Float} {m n M : Nat} {e f E F : Int}

/-- The exponent that a quotient is worked out with. -/
def quotientExponent (m : Nat) (e : Int) (n : Nat) (f : Int) : Int :=
  min (e - f) (Format.binary64.targetExponent (totalExponent m e - totalExponent n f))

/-- The mantissa of a quotient before it is rounded. -/
def quotientMantissa (m : Nat) (e : Int) (n : Nat) (f : Int) : Nat :=
  m * 2 ^ (e - f - quotientExponent m e n f).toNat / n

lemma div_measured (hx : Measured x m e) (hy : Measured y n f) :
    ∃ accuracy, div Format.binary64 x.toModel.unpack y.toModel.unpack =
      roundWithAccuracy Format.binary64 .positive (quotientMantissa m e n f)
        (quotientExponent m e n f) accuracy := by
  obtain ⟨_, hx⟩ := hx.unpacked
  obtain ⟨_, hy⟩ := hy.unpacked
  rw [hx, hy, quotientMantissa, ← Nat.shiftLeft_eq]
  exact ⟨_, rfl⟩

lemma Measured.mantissa_pos (h : Measured x m e) : 0 < m :=
  h.unpacked.1

lemma Measured.log2_lt (h : Measured x m e) : m.log2 < 53 :=
  (Nat.log2_lt h.mantissa_pos.ne').mpr h.short

/-! ### Below a power of two -/

lemma log2_of_product_lt {u : Nat} (hM : 2 ^ 52 ≤ M) (hn : M < n * 2 ^ u) : 52 < n.log2 + 1 + u := by
  refine (Nat.pow_lt_pow_iff_right (a := 2) (by decide)).mp ?_
  rw [Nat.pow_add]
  calc
    2 ^ 52 ≤ M := hM
    _ < n * 2 ^ u := hn
    _ ≤ 2 ^ (n.log2 + 1) * 2 ^ u := Nat.mul_le_mul_right _ Nat.lt_log2_self.le

lemma dividend_lt {s u a : Nat} (hm : m ≤ M) (hlast : M + 1 < 2 ^ 53) (hs : s + u ≤ a + 53)
    (hn : M < n * 2 ^ u) : m * 2 ^ s < (2 ^ 53 - 1) * 2 ^ a * n := by
  -- the divisor is known at the exponent of its bound only, so both sides are brought to that one
  refine Nat.lt_of_mul_lt_mul_right (a := 2 ^ u) ?_
  calc
    m * 2 ^ s * 2 ^ u = m * 2 ^ (s + u) := by rw [Nat.mul_assoc, ← Nat.pow_add]
    _ ≤ M * 2 ^ (a + 53) := Nat.mul_le_mul hm (Nat.pow_le_pow_right (by decide) hs)
    _ = M * 2 ^ 53 * 2 ^ a := by ring
    _ < (2 ^ 53 - 1) * (M + 1) * 2 ^ a :=
      Nat.mul_lt_mul_of_pos_right (by omega) (Nat.two_pow_pos a)
    _ ≤ (2 ^ 53 - 1) * (n * 2 ^ u) * 2 ^ a := Nat.mul_le_mul_right _ (Nat.mul_le_mul_left _ hn)
    _ = (2 ^ 53 - 1) * 2 ^ a * n * 2 ^ u := by ring

lemma quotient_below (hx : Measured x m e) (hy : Measured y n f) (hM : 2 ^ 52 ≤ M)
    (hlast : M + 1 < 2 ^ 53) (hEF : -1021 ≤ E - F) (hm : m ≤ M) (he : e ≤ E) (hf : F ≤ f)
    (hn : M < n * 2 ^ (f - F).toNat) :
    Below (E - F) (div Format.binary64 x.toModel.unpack y.toModel.unpack) := by
  obtain ⟨accuracy, hdiv⟩ := div_measured hx hy
  rw [hdiv]
  have hmlog := hx.log2_lt
  have hnlog := log2_of_product_lt hM hn
  obtain ⟨t, ht⟩ : ∃ t, t = quotientExponent m e n f := ⟨_, rfl⟩
  have htop : t ≤ E - F - 53 ∧ t ≤ e - f := by
    simp only [quotientExponent, Format.targetExponent, totalExponent, Format.mantissaBits,
      Format.minExponent] at ht
    omega
  obtain ⟨a, ha⟩ : ∃ a, a = (E - F - 53 - t).toNat := ⟨_, rfl⟩
  have hquotient : quotientMantissa m e n f < (2 ^ 53 - 1) * 2 ^ a := by
    rw [quotientMantissa, ← ht]
    exact (Nat.div_lt_iff_lt_mul hy.mantissa_pos).mpr (dividend_lt hm hlast (by omega) hn)
  have hsum : quotientMantissa m e n f + 2 ^ a < 2 ^ (a + 53) := by
    have hpow : 2 ^ (a + 53) = (2 ^ 53 - 1) * 2 ^ a + 2 ^ a := by ring
    omega
  rw [← ht]
  exact (below_round_of_lt .positive accuracy (by omega) hsum).mono (by omega)

/-! ### From a power of two on -/

lemma quotientExponent_of_full (hM : M.log2 = 52) (hn : n.log2 < 53) (h : -1021 ≤ E - f) :
    quotientExponent M E n f = E - f - (n.log2 + 1 : Nat) := by
  simp only [quotientExponent, Format.targetExponent, totalExponent, Format.mantissaBits,
    Format.minExponent, hM]
  omega

lemma quotientMantissa_of_full (hM : M.log2 = 52) (hn : n.log2 < 53) (h : -1021 ≤ E - f) :
    quotientMantissa M E n f = M * 2 ^ (n.log2 + 1) / n := by
  rw [quotientMantissa, quotientExponent_of_full hM hn h]
  congr 3
  omega

lemma quotient_reaches (hx : Measured x M E) (hy : Measured y n f) (hM : 2 ^ 52 ≤ M)
    (hEF : -1021 ≤ E - F) (hle : f < F ∨ f = F ∧ n ≤ M) :
    ∃ k g h, div Format.binary64 x.toModel.unpack y.toModel.unpack = .finite .positive k g h ∧
      k.log2 = 52 ∧ E - F ≤ 52 + g := by
  obtain ⟨accuracy, hdiv⟩ := div_measured hx hy
  rw [hdiv]
  have hnlog := hy.log2_lt
  have hMlog : M.log2 = 52 := (Nat.log2_eq_iff hx.mantissa_pos.ne').mpr ⟨hM, hx.short⟩
  rw [quotientExponent_of_full hMlog hnlog (by omega),
    quotientMantissa_of_full hMlog hnlog (by omega)]
  obtain ⟨q, hq⟩ : ∃ q, q = M * 2 ^ (n.log2 + 1) / n := ⟨_, rfl⟩
  rw [← hq]
  have hfull : M ≤ q := by
    rw [hq, Nat.le_div_iff_mul_le hy.mantissa_pos]
    exact Nat.mul_le_mul_left M Nat.lt_log2_self.le
  have hpos : q ≠ 0 := by omega
  have hlog : 52 ≤ q.log2 := (Nat.le_log2 hpos).mpr (Nat.le_trans hM hfull)
  have hreach : E - F ≤ q.log2 + (E - f - (n.log2 + 1 : Nat)) := by
    obtain hlt | ⟨rfl, hn⟩ := hle
    · omega
    · -- with the exponent of the bound, the mantissas decide whether there is one more bit
      have hlong : n.log2 + 1 ≤ q.log2 := by
        rw [Nat.le_log2 hpos, hq, Nat.le_div_iff_mul_le hy.mantissa_pos, Nat.mul_comm M]
        exact Nat.mul_le_mul_left _ hn
      omega
  have hleast : -1022 ≤ q.log2 + (E - f - (n.log2 + 1 : Nat)) := by omega
  obtain ⟨k, g, h, hround, hk, hg⟩ := rounded_full .positive accuracy hlog hleast
  exact ⟨k, g, h, hround, hk, Int.le_trans hreach hg⟩

end Quotient

end Microworlds.Proofs

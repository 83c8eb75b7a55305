import Microworlds.Decimal.Read
import Microworlds.Proofs.Decimal.Magnitude

/-!
# What is read from digits is a number

A text of digits stands for a number, however great. Its nearest value is a finite number or infinity; it is
never one of the values that are no numbers.
-/

namespace Microworlds.Proofs

open Float.Model (Format UnpackedFloat)
open Float.Model.UnpackedFloat hiding Sign round normalize

/-- Finite or infinite. -/
def IsNumeric (x : Float) : Prop := x.isNaN = false

instance (x : Float) : Decidable (IsNumeric x) :=
  inferInstanceAs (Decidable (_ = false))

lemma IsNumeric.isInf_iff {x : Float} (h : IsNumeric x) : x.isInf = true ↔ ¬ x.isFinite = true := by
  change x.toModel.unpack.isNaN = false at h
  change x.toModel.unpack.isInf = true ↔ ¬ x.toModel.unpack.isFinite = true
  cases hx : x.toModel.unpack with
  | notANumber => rw [hx] at h; cases h
  | infinity sign => exact ⟨fun _ => nofun, fun _ => rfl⟩
  | zero sign => exact ⟨nofun, fun h => absurd rfl h⟩
  | finite sign m e hm => exact ⟨nofun, fun h => absurd rfl h⟩

lemma numeric_components (sign : UnpackedFloat.Sign) {exponent : BitVec 11} (mantissa : BitVec 52)
    (h : exponent ≠ -1#_) :
    (unpack Format.binary64 (packComponents Format.binary64 sign exponent mantissa)).isNaN = false := by
  unfold unpack
  simp only [unpackExponent_packComponents, if_neg h]
  split
  · split <;> rfl
  · rfl

lemma numeric_pack {x : UnpackedFloat} (h : x.isNaN = false) :
    (unpack Format.binary64 (pack Format.binary64 x)).isNaN = false := by
  cases x with
  | notANumber => cases h
  | infinity sign => cases sign <;> decide +kernel
  | zero sign => cases sign <;> decide +kernel
  | finite sign m e hm =>
    unfold pack
    simp only
    split
    · cases sign <;> decide +kernel
    · next hsmall =>
      split
      · refine numeric_components sign _ fun hall => ?_
        have hexponent := congrArg BitVec.toNat hall
        rw [BitVec.toNat_ofNat] at hexponent
        change (e + 1023 + 52).toNat % 2048 = 2047 at hexponent
        change ¬ 2048 ≤ (e + 1023 + 52).toNat + 1 at hsmall
        omega
      · exact numeric_components sign _ (by decide)

lemma numeric_roundWithAccuracy (sign : UnpackedFloat.Sign) (m : Nat) (e : Int) (accuracy : Accuracy) :
    (roundWithAccuracy Format.binary64 sign m e accuracy).isNaN = false := by
  unfold roundWithAccuracy
  simp only
  split <;> rfl

lemma numeric_ofScientific (m : Nat) (e : Int) : (ofScientific Format.binary64 m e).isNaN = false := by
  unfold ofScientific
  split
  · rfl
  · split
    · rfl
    · split
      · rfl
      · split
        · exact numeric_roundWithAccuracy _ _ _ _
        · exact numeric_roundWithAccuracy _ _ _ _

/-! ### Products, quotients and powers of ten -/

lemma numeric_mul {x y : UnpackedFloat} (hx : x.isFinite = true) (hy : y.isFinite = true) :
    (mul Format.binary64 x y).isNaN = false := by
  cases x with
  | finite =>
    cases y with
    | finite => exact numeric_roundWithAccuracy _ _ _ _
    | zero => rfl
    | _ => cases hy
  | zero =>
    cases y with
    | finite => rfl
    | zero => rfl
    | _ => cases hy
  | _ => cases hx

/-- Whether a value is finite and not zero. -/
def isNonzero : UnpackedFloat → Bool
  | .finite .. => true
  | _ => false

lemma numeric_div {x y : UnpackedFloat} (hx : x.isFinite = true) (hy : isNonzero y = true) :
    (div Format.binary64 x y).isNaN = false := by
  cases y with
  | finite =>
    cases x with
    | finite => exact numeric_roundWithAccuracy _ _ _ _
    | zero => rfl
    | _ => cases hx
  | _ => cases hy

lemma isNonzero_power : ∀ power ∈ Float.exactlyRepresentablePowersOfTen.toList,
    isNonzero power.toModel.unpack = true := by
  decide +kernel

lemma isNumeric_ofScientific (m : Nat) (negative : Bool) (e : Nat) :
    IsNumeric (Float.ofScientific m negative e) := by
  unfold Float.ofScientific
  split
  · next hfast =>
    have hsmall : IsFinite m.toUInt64.toFloat := (small_toFloat hfast.1 (by decide)).isFinite
    have he : e < Float.exactlyRepresentablePowersOfTen.size := Nat.lt_succ_of_le hfast.2
    have hpower := isNonzero_power Float.exactlyRepresentablePowersOfTen[e] (by simp)
    have hfinite : Float.exactlyRepresentablePowersOfTen[e].toModel.unpack.isFinite = true := by
      cases hunpack : Float.exactlyRepresentablePowersOfTen[e].toModel.unpack with
      | finite => rfl
      | _ => rw [hunpack] at hpower; cases hpower
    simp only
    split
    · exact numeric_pack (numeric_div hsmall hpower)
    · exact numeric_pack (numeric_mul hsmall hfinite)
  · exact numeric_pack (numeric_ofScientific _ _)

lemma isNumeric_nearest (mantissa : Nat) (exponent : Int) : IsNumeric (Decimal.nearest mantissa exponent) := by
  have hzero : IsNumeric 0.0 := by decide +kernel
  have hinfinity : IsNumeric (1.0 / 0.0) := by decide +kernel
  unfold Decimal.nearest
  simp only
  split_ifs
  · exact hzero
  · exact hinfinity
  · exact isNumeric_ofScientific _ _ _
  · exact isNumeric_ofScientific _ _ _

lemma IsNumeric.neg {x : Float} (h : IsNumeric x) : IsNumeric (-x) := by
  have hneg : ∀ model : UnpackedFloat, model.isNaN = false → model.neg.isNaN = false := by
    intro model hmodel
    cases model with
    | notANumber => cases hmodel
    | _ => rfl
  exact numeric_pack (hneg _ h)

end Microworlds.Proofs

import Microworlds.Decimal.Binary
import Mathlib

/-!
# Numbers as bits

A finite number with all its 53 places is put into 64 bits and taken out of them again without a
change. The calculations of the library take it out in the same way as `Binary.ofFloat`.
-/

namespace Microworlds.Proofs

open Float.Model (Format UnpackedFloat)
open Float.Model.UnpackedFloat hiding Sign round normalize

/-! ### From parts to bits and back -/

lemma toNat_packComponents (sign : UnpackedFloat.Sign) (exponent : BitVec 11) (mantissa : BitVec 52) :
    (packComponents Format.binary64 sign exponent mantissa).toNat =
      (sign.toBitVec.toNat * 2 ^ 11 + exponent.toNat) * 2 ^ 52 + mantissa.toNat := by
  have hfront : (sign.toBitVec ++ exponent).toNat = sign.toBitVec.toNat * 2 ^ 11 + exponent.toNat := by
    rw [BitVec.toNat_append, ← Nat.shiftLeft_add_eq_or_of_lt exponent.isLt, Nat.shiftLeft_eq]
  change ((sign.toBitVec ++ exponent) ++ mantissa).toNat = _
  rw [BitVec.toNat_append, ← Nat.shiftLeft_add_eq_or_of_lt mantissa.isLt, Nat.shiftLeft_eq, hfront]

lemma unpackSign_packComponents (sign : UnpackedFloat.Sign) (exponent : BitVec 11)
    (mantissa : BitVec 52) :
    unpackSign (packComponents Format.binary64 sign exponent mantissa) = sign.toBitVec := by
  have hbits := toNat_packComponents sign exponent mantissa
  have hexponent := exponent.isLt
  have hmantissa := mantissa.isLt
  have hsign := sign.toBitVec.isLt
  apply BitVec.eq_of_toNat_eq
  simp only [unpackSign, BitVec.toNat_cast, BitVec.extractLsb_toNat, Nat.shiftRight_eq_div_pow, hbits]
  change _ % 2 ^ 1 = _
  omega

lemma unpack_pack_of_full (sign : UnpackedFloat.Sign) {m : Nat} {e : Int} (h : 0 < m)
    (hm : 2 ^ 52 ≤ m ∧ m < 2 ^ 53) (he : -1074 ≤ e ∧ e ≤ 971) :
    unpack Format.binary64 (pack Format.binary64 (.finite sign m e h)) = .finite sign m e h := by
  have hlog : m.log2 = 52 := (Nat.log2_eq_iff h.ne').mpr hm
  have hexponent : (BitVec.ofNat 11 (e + 1023 + 52).toNat).toNat = (e + 1023 + 52).toNat := by
    rw [BitVec.toNat_ofNat, Nat.mod_eq_of_lt (by omega)]
  have hpack : pack Format.binary64 (.finite sign m e h) = packComponents Format.binary64 sign
      (BitVec.ofNat 11 (e + 1023 + 52).toNat) (BitVec.ofNat 52 m) := by
    unfold pack
    simp only
    rw [if_neg, if_pos]
    · rfl
    · rw [hlog]
      rfl
    · change ¬ 2048 ≤ (e + 1023 + 52).toNat + 1
      omega
  have hinfinite : BitVec.ofNat 11 (e + 1023 + 52).toNat ≠ -1#_ := by
    intro hall
    rw [hall] at hexponent
    change 2047 = _ at hexponent
    omega
  have hsubnormal : BitVec.ofNat 11 (e + 1023 + 52).toNat ≠ 0#_ := by
    intro hzero
    rw [hzero] at hexponent
    change 0 = _ at hexponent
    omega
  have hmantissa : (1#1 ++ BitVec.ofNat 52 m).toNat = m := by
    rw [BitVec.toNat_append, ← Nat.shiftLeft_add_eq_or_of_lt (BitVec.ofNat 52 m).isLt]
    change 2 ^ 52 + m % 2 ^ 52 = m
    omega
  have hsign : UnpackedFloat.Sign.ofBitVec sign.toBitVec = sign := by cases sign <;> rfl
  rw [hpack]
  unfold unpack
  simp only [unpackExponent_packComponents, unpackMantissa_packComponents,
    unpackSign_packComponents, if_neg hinfinite, if_neg hsubnormal, hsign, hexponent]
  congr 1
  change ((e + 1023 + 52).toNat : Int) - (1023 + 52) = e
  omega

/-! ### The parts of a value -/

section Parts

variable (x : Float)

lemma toNat_unpackExponent :
    (@unpackExponent Format.binary64 x.toModel.toBits.toBitVec).toNat =
      x.toBits.toNat / Decimal.Binary.leastNormal % 2048 := by
  simp [unpackExponent, Decimal.Binary.leastNormal, BitVec.extractLsb_toNat,
    Nat.shiftRight_eq_div_pow, Float.toBits]

lemma toNat_unpackMantissa :
    (@unpackMantissa Format.binary64 x.toModel.toBits.toBitVec).toNat =
      x.toBits.toNat % Decimal.Binary.leastNormal := by
  simp [unpackMantissa, Decimal.Binary.leastNormal, BitVec.extractLsb_toNat, Float.toBits]

lemma toNat_unpackSign :
    (@unpackSign Format.binary64 x.toModel.toBits.toBitVec).toNat =
      x.toBits.toNat / 2 ^ 63 := by
  have hbits : x.toBits.toNat < 2 ^ 64 := x.toBits.toNat_lt
  have hmodel : x.toModel.toBits.toBitVec.toNat = x.toBits.toNat := rfl
  simp only [unpackSign, BitVec.toNat_cast, BitVec.extractLsb_toNat, Nat.shiftRight_eq_div_pow]
  change x.toModel.toBits.toBitVec.toNat / 2 ^ 63 % 2 ^ 1 = _
  omega

end Parts

/-- The sign as it is kept by `Binary`. -/
def isNegative : UnpackedFloat.Sign → Bool
  | .negative => true
  | .positive => false

lemma signBit_eq (x : Float) : Decimal.Binary.signBit x =
    isNegative (.ofBitVec (@unpackSign Format.binary64 x.toModel.toBits.toBitVec)) := by
  have hfield := toNat_unpackSign x
  have hbits : x.toBits.toNat < 2 ^ 64 := x.toBits.toNat_lt
  generalize @unpackSign Format.binary64 x.toModel.toBits.toBitVec = field at *
  unfold Decimal.Binary.signBit UnpackedFloat.Sign.ofBitVec
  by_cases hzero : field = 0#1
  · rw [if_pos hzero]
    rw [hzero] at hfield
    change 0 = _ at hfield
    exact decide_eq_false (by change ¬ 9223372036854775808 ≤ _; omega)
  · have hone : field.toNat ≠ 0 := fun h => hzero (BitVec.eq_of_toNat_eq h)
    rw [if_neg hzero]
    exact decide_eq_true (by change 9223372036854775808 ≤ _; omega)

lemma ofFloat_of_finite {x : Float} {sign : UnpackedFloat.Sign} {m : Nat} {e : Int} {h : 0 < m}
    (hx : x.toModel.unpack = .finite sign m e h) :
    Decimal.Binary.ofFloat x = some ⟨isNegative sign, m, e⟩ := by
  have hsign := signBit_eq x
  have hexponent := toNat_unpackExponent x
  have hmantissa := toNat_unpackMantissa x
  change unpack Format.binary64 x.toModel.toBits.toBitVec = _ at hx
  generalize x.toModel.toBits.toBitVec = bits at *
  unfold Decimal.Binary.ofFloat
  simp only [← hexponent, ← hmantissa, hsign]
  unfold unpack at hx
  simp only at hx
  split at hx
  case isTrue => split at hx <;> cases hx
  case isFalse hall =>
    have hfinite : (@unpackExponent Format.binary64 bits).toNat ≠ 2047 := fun h => hall (BitVec.eq_of_toNat_eq h)
    rw [if_neg hfinite]
    split at hx
    case isTrue hzero =>
      split at hx
      · cases hx
      · cases hx
        rw [hzero]
        rfl
    case isFalse hzero =>
      have hpos : (@unpackExponent Format.binary64 bits).toNat ≠ 0 := fun h => hzero (BitVec.eq_of_toNat_eq h)
      cases hx
      rw [if_neg hpos, BitVec.toNat_append,
        ← Nat.shiftLeft_add_eq_or_of_lt (@unpackMantissa Format.binary64 bits).isLt]
      rfl

end Microworlds.Proofs

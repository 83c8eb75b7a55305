import Microworlds.Decimal.Layout
import Microworlds.Proofs.Decimal.Search
import Microworlds.Proofs.Decimal.Whole
import Microworlds.Proofs.Statement.Literals

/-!
# Whole numbers as they are displayed

A value is displayed by the shortest decimal that is read back as it. So a whole number is displayed by
another one that has the same value, if that one ends with more zeros.
-/

namespace Microworlds.Proofs

open Decimal

/-- Of the whole numbers that have the same value as `n`, those with the most zeros at the end, and of
these the one that is nearest to the value; of two equally near ones the greater. -/
structure Shown (n place s : Nat) : Prop where
  alike : rounded s = rounded n
  zeros : 10 ^ place ∣ s
  roundest : ∀ t, rounded t = rounded n → 10 ^ (place + 1) ∣ t → t = 0
  nearest : ∀ t, rounded t = rounded n → 10 ^ place ∣ t →
    Nat.dist s (rounded n) < Nat.dist t (rounded n) ∨
      Nat.dist s (rounded n) = Nat.dist t (rounded n) ∧ t ≤ s

/-! ### The whole numbers with the same value -/

section Interval

variable {n t : Nat} (negative : Bool) (hn : n ≠ 0)

include hn

lemma leading_mul_finer : leading (rounded n) * (4 * finer (valueOf negative n)) =
    rounded n * quarters (valueOf negative n) := by
  have hexact := leading_mul hn
  have hscale : finer (valueOf negative n) * 2 ^ 54 =
      quarters (valueOf negative n) * 2 ^ (rounded n).log2 := by
    rw [finer, quarters, valueOf, ← Nat.pow_add, ← Nat.pow_add]
    congr 1
    dsimp only
    omega
  refine Nat.eq_of_mul_eq_mul_right (Nat.two_pow_pos 52) ?_
  calc
    leading (rounded n) * (4 * finer (valueOf negative n)) * 2 ^ 52 =
        leading (rounded n) * (finer (valueOf negative n) * 2 ^ 54) := by ring
    _ = quarters (valueOf negative n) * (leading (rounded n) * 2 ^ (rounded n).log2) := by
      rw [hscale]
      ring
    _ = rounded n * quarters (valueOf negative n) * 2 ^ 52 := by
      rw [hexact]
      ring

lemma mem_interval : (interval (valueOf negative n)).contains t = true ↔
    Near (leading (rounded n)) (4 * finer (valueOf negative n)) t := by
  have hleading := leading_bounds (rounded_ne_zero hn)
  have hwide : finer (valueOf negative n) ≤ leading (rounded n) * finer (valueOf negative n) :=
    Nat.le_mul_of_pos_left _ (by omega)
  generalize hfiner : finer (valueOf negative n) = u at *
  have hfour : leading (rounded n) * (4 * u) = 4 * (leading (rounded n) * u) := by ring
  have hnarrow : (leading (rounded n) = Binary.leastNormal ∧ -1074 < ((rounded n).log2 - 52 : Int)) ↔
      leading (rounded n) = 2 ^ 52 := and_iff_left (by omega)
  rw [contains_iff, interval, hfiner, Span.refine, Span.ofBinary, valueOf, Near]
  simp only [hnarrow, beq_iff_eq, Nat.sub_mul, Nat.add_mul, Nat.mul_assoc, hfour]
  split <;> omega

lemma mem_interval_iff :
    (interval (valueOf negative n)).contains (t * quarters (valueOf negative n)) = true ↔
      rounded t = rounded n := by
  have hvalue := leading_mul_finer negative hn
  have hpos : 0 < quarters (valueOf negative n) := Nat.two_pow_pos _
  rw [mem_interval negative hn]
  by_cases hlong : 53 ≤ (rounded n).log2
  · have hscale : 4 * finer (valueOf negative n) =
        2 ^ ((rounded n).log2 - 52) * quarters (valueOf negative n) := by
      rw [quarters, finer, valueOf, ← Nat.pow_add, show 4 = 2 ^ 2 from rfl, ← Nat.pow_add]
      congr 1
      dsimp only
      omega
    have hrounded : rounded n = leading (rounded n) * 2 ^ ((rounded n).log2 - 52) := by
      refine Nat.eq_of_mul_eq_mul_right hpos ?_
      rw [← hvalue, hscale, Nat.mul_assoc]
    rw [hscale, near_mul hpos, ← rounded_eq_iff_near (leading_bounds (rounded_ne_zero hn)) (by omega),
      ← hrounded]
  · have hshort : rounded n < 2 ^ 53 := (Nat.log2_lt (rounded_ne_zero hn)).mp (by omega)
    have hfiner : finer (valueOf negative n) = 1 := by
      rw [finer, valueOf, show ((rounded n).log2 - 52 - 2 : Int).toNat = 0 by omega, Nat.pow_zero]
    have hquarters : 2 ^ 2 ≤ quarters (valueOf negative n) :=
      Nat.pow_le_pow_right (by decide) (by rw [valueOf]; dsimp only; omega)
    rw [rounded_eq_iff_of_short hshort, Near, hvalue, hfiner]
    generalize quarters (valueOf negative n) = u at *
    -- the next whole numbers are a unit away, and the ends of the interval half a unit at most
    obtain hless | rfl | hmore := Nat.lt_trichotomy t (rounded n)
    · have hstep := Nat.mul_le_mul_right u hless
      rw [Nat.succ_mul] at hstep
      refine iff_of_false ?_ hless.ne
      split <;> omega
    · refine iff_of_true (.inl ⟨?_, by omega⟩) rfl
      split <;> omega
    · have hstep := Nat.mul_le_mul_right u hmore
      rw [Nat.succ_mul] at hstep
      refine iff_of_false ?_ hmore.ne'
      split <;> omega

lemma value_interval : (interval (valueOf negative n)).value =
    rounded n * quarters (valueOf negative n) := by
  rw [← leading_mul_finer negative hn]
  change 4 * leading (rounded n) * finer (valueOf negative n) = _
  ring

lemma around_interval : Around (interval (valueOf negative n)) := by
  have hpos : 0 < finer (valueOf negative n) := Nat.two_pow_pos _
  have hleading := leading_bounds (rounded_ne_zero hn)
  constructor
  · refine Nat.mul_lt_mul_of_pos_right ?_ hpos
    unfold Span.ofBinary valueOf
    dsimp only
    split <;> omega
  · exact Nat.mul_lt_mul_of_pos_right (Nat.lt_add_of_pos_right (by decide)) hpos

lemma mem_grid {place k : Nat} : (interval (valueOf negative n)).contains
      (k * (quarters (valueOf negative n) * 10 ^ place)) = true ↔
    rounded (k * 10 ^ place) = rounded n := by
  rw [← mem_interval_iff negative hn, Nat.mul_assoc, Nat.mul_comm (10 ^ place)]

omit hn in
lemma unit_pos (b : Binary) (place : Nat) : 0 < quarters b * 10 ^ place :=
  Nat.mul_pos (Nat.two_pow_pos _) (Nat.pow_pos (by decide))

lemma onGrid?_zero : onGrid? (valueOf negative n) 0 ≠ none := by
  intro h
  have haround := around_interval negative hn
  have hnot := nearest?_eq_none haround (unit_pos _ 0) h (rounded n)
  rw [Nat.pow_zero, Nat.mul_one, ← value_interval negative hn] at hnot
  exact hnot (contains_iff.mpr (.inl ⟨haround.low, haround.high⟩))

/-- No number with the same value ends with more zeros than the first grid has. -/
lemma lt_first_grid (hlarge : n < 2 ^ 64) (h : rounded t = rounded n) :
    t < 10 ^ (((rounded n).log2 + 1) * 30103 / 100000 + 1) := by
  have hgrids : ∀ l < 65, 2 ^ (l + 1) ≤ 10 ^ ((l + 1) * 30103 / 100000 + 1) := by decide
  have hlog := log2_rounded_le hn hlarge
  refine Nat.lt_of_lt_of_le ?_ (hgrids (rounded n).log2 (by omega))
  by_cases ht : t = 0
  · rw [ht]
    exact Nat.two_pow_pos _
  · have hle : t.log2 ≤ (rounded n).log2 := by
      rw [Nat.le_log2 (rounded_ne_zero hn), ← h]
      exact le_rounded ht
    exact Nat.lt_log2_self.trans_le (Nat.pow_le_pow_right (by decide) (by omega))

lemma shortest_valueOf (hlarge : n < 2 ^ 64) : ∃ digits place : Nat,
    shortest .upward (valueOf negative n) = ⟨digits, place⟩ ∧ digits ≠ 0 ∧
      Shown n place (digits * 10 ^ place) := by
  have hleading := leading_bounds (rounded_ne_zero hn)
  have hlog := log2_rounded_le hn hlarge
  have hfull : (leading (rounded n)).log2 = 52 := (Nat.log2_eq_iff (by omega)).mpr hleading
  obtain ⟨first, hfirst⟩ : ∃ first, first = ((rounded n).log2 + 1) * 30103 / 100000 + 1 := ⟨_, rfl⟩
  have hstart : (((leading (rounded n)).log2 + 1 + ((rounded n).log2 - 52) : Int) * 30103 / 100000 + 1) =
      first := by
    rw [hfull, hfirst]
    omega
  obtain ⟨digits, place, hle, hsearch, hdigits, hnone⟩ :=
    search_whole (onGrid?_zero negative hn) 22 first (by omega)
  have haround := around_interval negative hn
  obtain ⟨hin, hnearest⟩ := nearest?_eq_some haround (unit_pos _ place) hdigits
  rw [mem_grid negative hn] at hin
  refine ⟨digits, place, ?_, ?_, hin, Nat.dvd_mul_left _ _, ?_, ?_⟩
  · unfold shortest
    simp only [valueOf] at hsearch ⊢
    rw [hstart]
    exact hsearch
  · rintro rfl
    rw [Nat.zero_mul] at hin
    exact rounded_ne_zero hn hin.symm
  · rintro t ht ⟨k, rfl⟩
    rw [Nat.mul_comm _ k] at ht ⊢
    by_contra hpos
    obtain hless | rfl : place + 1 ≤ first ∨ place = first := by omega
    · exact nearest?_eq_none haround (unit_pos _ _) (hnone (place + 1) (by omega) hless) k
        ((mem_grid negative hn).mpr ht)
    · have hfew := lt_first_grid hn hlarge ht
      rw [← hfirst] at hfew
      have hmany : 10 ^ (place + 1) ≤ k * 10 ^ (place + 1) :=
        Nat.le_mul_of_pos_left _ (Nat.pos_of_ne_zero (Nat.ne_zero_of_mul_ne_zero_left hpos))
      exact absurd (hmany.trans hfew.le) (Nat.not_le.mpr (Nat.pow_lt_pow_succ (by decide)))
  · rintro t ht ⟨k, rfl⟩
    rw [Nat.mul_comm _ k] at ht ⊢
    have hpos : 0 < quarters (valueOf negative n) := Nat.two_pow_pos _
    have hside : ∀ k, Nat.dist (k * (quarters (valueOf negative n) * 10 ^ place))
        (interval (valueOf negative n)).value =
        Nat.dist (k * 10 ^ place) (rounded n) * quarters (valueOf negative n) := by
      intro k
      rw [value_interval negative hn, Nat.mul_comm (quarters _), ← Nat.mul_assoc, Nat.dist_mul_right]
    have hcloser := hnearest k ((mem_grid negative hn).mpr ht)
    rw [hside, hside, Nat.mul_lt_mul_right hpos, Nat.mul_left_inj hpos.ne'] at hcloser
    obtain hless | ⟨hsame, hle⟩ := hcloser
    · exact .inl hless
    · exact .inr ⟨hsame, Nat.mul_le_mul_right _ hle⟩

end Interval

lemma shown_zero : Shown 0 0 0 where
  alike := rfl
  zeros := Nat.dvd_zero _
  roundest t ht _ := eq_zero_of_rounded ht
  nearest t ht _ := by
    obtain rfl := eq_zero_of_rounded ht
    exact .inr ⟨rfl, Nat.le_refl 0⟩

namespace Shown

variable {n place other s t : Nat}

lemma eq_of_lt (hs : Shown n place s) (ht : Shown n other t) (h : place < other) : s = t := by
  have hzero : t = 0 := hs.roundest t ht.alike ((Nat.pow_dvd_pow 10 h).trans ht.zeros)
  rw [hzero] at ht ⊢
  exact eq_zero_of_rounded (hs.alike.trans ht.alike.symm)

lemma unique (hs : Shown n place s) (ht : Shown n other t) : s = t := by
  obtain hless | rfl | hmore := Nat.lt_trichotomy place other
  · exact hs.eq_of_lt ht hless
  · have hst := hs.nearest t ht.alike ht.zeros
    have hts := ht.nearest s hs.alike hs.zeros
    omega
  · exact (ht.eq_of_lt hs hmore).symm

lemma eq_self (hs : Shown n place s) (hn : n ≤ 2 ^ 53) : s = n := by
  have halike := hs.alike
  obtain hless | rfl := Nat.lt_or_eq_of_le hn
  · rwa [rounded_eq_of_lt hless, rounded_eq_iff_of_short hless] at halike
  · have hexact : rounded (2 ^ 53) = 2 ^ 52 * 2 ^ 1 := by decide +kernel
    rw [hexact, rounded_eq_iff_near (by decide) (by decide), Near, if_pos rfl] at halike
    -- the number after `2 ^ 53` has the same value, and it ends with no zero either
    obtain rfl | rfl : s = 2 ^ 53 ∨ s = 2 ^ 53 + 1 := by omega
    · rfl
    · have hplace : place = 0 := by
        by_contra hpos
        have hten := (Dvd.intro_left _ (Nat.pow_pred_mul (Nat.pos_of_ne_zero hpos))).trans hs.zeros
        exact absurd hten (by decide)
      subst hplace
      have hnearest := hs.nearest (2 ^ 53) rfl (Nat.one_dvd _)
      rw [hexact] at hnearest
      exact absurd hnearest (by decide)

end Shown

/-! ### The text -/

lemma toDigits_mul_pow {digits : Nat} (h : digits ≠ 0) (place : Nat) :
    Nat.toDigits 10 (digits * 10 ^ place) = Nat.toDigits 10 digits ++ List.replicate place '0' := by
  induction place with
  | zero => simp
  | succ place ih =>
    have hpos : 0 < digits * 10 ^ place :=
      Nat.mul_pos (Nat.pos_of_ne_zero h) (Nat.pow_pos (by decide))
    have hnext : digits * 10 ^ (place + 1) = 10 * (digits * 10 ^ place) + 0 := by ring
    rw [hnext, ← Nat.toDigits_append_toDigits (by decide) hpos (by decide), ih, List.append_assoc,
      List.replicate_succ']
    rfl

lemma scaled_whole {digits : Nat} (h : digits ≠ 0) (place : Nat) :
    Layout.text.scaled ⟨digits, place⟩ = String.ofList (Nat.toDigits 10 (digits * 10 ^ place)) := by
  have hlength : 0 < (Nat.toDigits 10 digits).length := Nat.length_toDigits_pos
  obtain ⟨text, htext⟩ : ∃ text, text = Nat.toDigits 10 digits := ⟨_, rfl⟩
  have hposition : ¬ (place + text.length : Int) ≤ 0 := by
    rw [htext]
    omega
  have hwhole : (place + text.length : Int).toNat = place + text.length := by omega
  rw [toDigits_mul_pow h, ← htext]
  unfold Layout.scaled
  simp only [← htext]
  change Layout.text.pointed text _ = _
  unfold Layout.pointed
  simp only [if_neg hposition, hwhole]
  rw [if_pos (Nat.le_add_left _ _), Nat.add_sub_cancel]
  exact String.append_empty

lemma toString_signed {z : Int} {s : Nat} (hz : z ≠ 0) (hs : s ≠ 0) : toString (z.sign * s) =
    if z < 0 then "-" ++ String.ofList (Nat.toDigits 10 s) else String.ofList (Nat.toDigits 10 s) := by
  have hsize : (z.sign * s).natAbs = s := by
    rw [Int.natAbs_mul, Int.natAbs_sign_of_ne_zero hz, Nat.one_mul, Int.natAbs_natCast]
  have hsign : z.sign * s < 0 ↔ z < 0 := by
    obtain hneg | hpos := Int.lt_or_gt_of_ne hz
    · rw [Int.sign_eq_neg_one_of_neg hneg]
      omega
    · rw [Int.sign_eq_one_of_pos hpos]
      omega
  rw [← String.toList_inj, toList_toString_int, signedDigits, hsize]
  simp only [hsign]
  split <;> simp

lemma display_ofInt {z : Int} (hlarge : z.natAbs < 2 ^ 64) :
    ∃ place s, Shown z.natAbs place s ∧ display (Float.ofInt z) = toString (z.sign * s) := by
  by_cases hz : z = 0
  · refine ⟨0, 0, hz ▸ shown_zero, ?_⟩
    rw [hz, display, Layout.write, ofFloat_zero]
    rfl
  · obtain ⟨digits, place, hshortest, hpos, hshown⟩ :=
      shortest_valueOf (decide (z < 0)) (Int.natAbs_ne_zero.mpr hz) hlarge
    refine ⟨place, digits * 10 ^ place, hshown, ?_⟩
    have hzero : ¬(valueOf (decide (z < 0)) z.natAbs).mantissa = 0 := by
      have hleading := leading_bounds (rounded_ne_zero (Int.natAbs_ne_zero.mpr hz))
      change ¬leading (rounded z.natAbs) = 0
      omega
    have hsign : (valueOf (decide (z < 0)) z.natAbs).negative = true ↔ z < 0 := decide_eq_true_iff
    have hsize : Layout.text.scaled (shortest Layout.text.tie (valueOf (decide (z < 0)) z.natAbs)) =
        String.ofList (Nat.toDigits 10 (digits * 10 ^ place)) :=
      (congrArg _ hshortest).trans (scaled_whole hpos place)
    rw [toString_signed hz (Nat.mul_ne_zero hpos (Nat.pow_pos (by decide)).ne'), ← hsize, display,
      Layout.write, ofFloat_ofInt hz hlarge]
    simp only [if_neg hzero, hsign]

end Microworlds.Proofs

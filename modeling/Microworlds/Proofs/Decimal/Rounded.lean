import Microworlds.Decimal.Shortest
import Mathlib

/-!
# Whole numbers rounded to 53 places

A value has 53 binary places. A whole number with more of them is rounded, so it shares its value with
other whole numbers: all that are near enough to it.
-/

namespace Microworlds.Proofs

open Decimal (roundRatio)

/-- The nearest whole number that has 53 binary places at most, a tie going to the even neighbour. -/
def rounded (n : Nat) : Nat :=
  roundRatio n (2 ^ (n.log2 - 52)) * 2 ^ (n.log2 - 52)

/-! ### Rounding to a whole number -/

/-- A rounded quotient is within a half of the quotient, and it is even if it is a half away. -/
lemma roundRatio_eq_iff {v u k : Nat} (hu : 0 < u) : roundRatio v u = k ↔
    2 * (k * u) ≤ 2 * v + u ∧ 2 * v ≤ 2 * (k * u) + u ∧
      (2 * (k * u) = 2 * v + u ∨ 2 * v = 2 * (k * u) + u → k % 2 = 0) := by
  obtain ⟨q, hq⟩ : ∃ q, q = v / u := ⟨_, rfl⟩
  obtain ⟨r, hr⟩ : ∃ r, r = v % u := ⟨_, rfl⟩
  have hv : v = q * u + r := by rw [hq, hr, Nat.mul_comm, Nat.div_add_mod]
  have hlt : r < u := hr ▸ Nat.mod_lt v hu
  have hnext : (q + 1) * u = q * u + u := Nat.succ_mul q u
  unfold roundRatio
  rw [← hq, ← hr, hv]
  dsimp only
  constructor
  · rintro rfl
    split
    · omega
    · split
      · omega
      · have hparity : q % 2 = 0 ∨ q % 2 = 1 := by omega
        rcases hparity with heven | hodd
        · rw [heven, Nat.add_zero]
          omega
        · rw [hodd, hnext]
          omega
  · rintro ⟨hlow, hhigh, htie⟩
    have hge : q ≤ k := by
      by_contra hless
      have hstep : (k + 1) * u ≤ q * u := Nat.mul_le_mul_right u (by omega)
      rw [Nat.succ_mul] at hstep
      omega
    have hle : k ≤ q + 1 := by
      by_contra hmore
      have hstep : (q + 2) * u ≤ k * u := Nat.mul_le_mul_right u (by omega)
      rw [Nat.add_mul] at hstep
      omega
    obtain rfl | rfl : k = q ∨ k = q + 1 := by omega
    · split <;> [rfl; split] <;> omega
    · rw [hnext] at hlow hhigh htie
      split <;> [skip; split] <;> omega

lemma roundRatio_of_mul {k u : Nat} (hu : 0 < u) : roundRatio (k * u) u = k :=
  (roundRatio_eq_iff hu).mpr ⟨by omega, by omega, by omega⟩

lemma roundRatio_mul_right (v : Nat) {u c : Nat} (hu : 0 < u) (hc : 0 < c) :
    roundRatio (v * c) (u * c) = roundRatio v u := by
  obtain ⟨hlow, hhigh, htie⟩ := (roundRatio_eq_iff (v := v) hu).mp rfl
  obtain ⟨k, hk⟩ : ∃ k, k = roundRatio v u := ⟨_, rfl⟩
  rw [← hk] at hlow hhigh htie ⊢
  have hlow := Nat.mul_le_mul_right c hlow
  have hhigh := Nat.mul_le_mul_right c hhigh
  refine (roundRatio_eq_iff (Nat.mul_pos hu hc)).mpr ⟨by linarith, by linarith, ?_⟩
  rintro (heq | heq)
  · exact htie (.inl (Nat.mul_right_cancel hc (by linarith)))
  · exact htie (.inr (Nat.mul_right_cancel hc (by linarith)))

/-! ### Numbers that are rounded -/

variable {n : Nat}

lemma rounded_eq_of_lt (h : n < 2 ^ 53) : rounded n = n := by
  have hlog : n.log2 - 52 = 0 := by
    obtain rfl | hpos := Nat.eq_zero_or_pos n
    · rfl
    · have hlt := (Nat.log2_lt hpos.ne').mpr h
      omega
  rw [rounded, hlog, Nat.pow_zero, Nat.mul_one]
  simpa using roundRatio_of_mul (k := n) (u := 1) (by decide)

lemma log2_mul_two_pow (hn : n ≠ 0) (j : Nat) : (n * 2 ^ j).log2 = n.log2 + j := by
  have hpos : n * 2 ^ j ≠ 0 := Nat.mul_ne_zero hn (Nat.two_pow_pos j).ne'
  refine (Nat.log2_eq_iff hpos).mpr ⟨?_, ?_⟩
  · rw [Nat.pow_add]
    exact Nat.mul_le_mul_right _ (Nat.log2_self_le hn)
  · rw [Nat.add_right_comm, Nat.pow_add]
    exact Nat.mul_lt_mul_of_pos_right Nat.lt_log2_self (Nat.two_pow_pos j)

lemma roundRatio_shifted {j : Nat} (hn : n ≠ 0) (hj : 52 ≤ n.log2 + j) :
    roundRatio (n * 2 ^ j) (2 ^ (n.log2 + j - 52)) * 2 ^ n.log2 = rounded n * 2 ^ 52 := by
  by_cases hlong : 52 ≤ n.log2
  · rw [show n.log2 + j - 52 = n.log2 - 52 + j by omega, Nat.pow_add,
      roundRatio_mul_right n (Nat.two_pow_pos _) (Nat.two_pow_pos j), rounded, Nat.mul_assoc,
      ← Nat.pow_add, Nat.sub_add_cancel hlong]
  · have hshort : n < 2 ^ 53 := (Nat.log2_lt hn).mp (by omega)
    have hexact : n * 2 ^ j = n * 2 ^ (52 - n.log2) * 2 ^ (n.log2 + j - 52) := by
      rw [Nat.mul_assoc, ← Nat.pow_add]
      congr 2
      omega
    rw [hexact, roundRatio_of_mul (Nat.two_pow_pos _), rounded_eq_of_lt hshort, Nat.mul_assoc,
      ← Nat.pow_add, Nat.sub_add_cancel (by omega)]

/-- The first 53 places of a number, rounded. There can be a carry. -/
def places (n : Nat) : Nat :=
  roundRatio (n * 2 ^ 52) (2 ^ n.log2)

lemma places_mul (hn : n ≠ 0) : places n * 2 ^ n.log2 = rounded n * 2 ^ 52 :=
  roundRatio_shifted hn (Nat.le_add_left 52 n.log2)

lemma places_of_long (h : 52 ≤ n.log2) :
    places n = roundRatio n (2 ^ (n.log2 - 52)) ∧ rounded n = places n * 2 ^ (n.log2 - 52) := by
  have hplaces : places n = roundRatio n (2 ^ (n.log2 - 52)) := by
    rw [← roundRatio_mul_right n (Nat.two_pow_pos _) (Nat.two_pow_pos 52), ← Nat.pow_add,
      Nat.sub_add_cancel h, places]
  exact ⟨hplaces, hplaces ▸ rfl⟩

lemma places_bounds (hn : n ≠ 0) : 2 ^ 52 ≤ places n ∧ places n ≤ 2 ^ 53 := by
  obtain ⟨u, hu⟩ : ∃ u, u = 2 ^ n.log2 := ⟨_, rfl⟩
  have hpos : 0 < u := hu ▸ Nat.two_pow_pos _
  have hleast : u ≤ n := hu ▸ Nat.log2_self_le hn
  have hnext : n < u * 2 := by
    rw [hu, ← Nat.pow_succ]
    exact Nat.lt_log2_self
  obtain ⟨hlow, hhigh, -⟩ := (roundRatio_eq_iff (v := n * 2 ^ 52) hpos).mp rfl
  rw [places, ← hu]
  constructor
  · by_contra hless
    have hstep := Nat.mul_le_mul_right u (show roundRatio (n * 2 ^ 52) u + 1 ≤ 2 ^ 52 by omega)
    rw [Nat.succ_mul] at hstep
    omega
  · by_contra hmore
    have hstep := Nat.mul_le_mul_right u (show 2 ^ 53 + 1 ≤ roundRatio (n * 2 ^ 52) u by omega)
    rw [Nat.succ_mul] at hstep
    omega

lemma le_rounded (hn : n ≠ 0) : 2 ^ n.log2 ≤ rounded n := by
  refine Nat.le_of_mul_le_mul_right (c := 2 ^ 52) ?_ (Nat.two_pow_pos 52)
  rw [← places_mul hn, Nat.mul_comm]
  exact Nat.mul_le_mul_right _ (places_bounds hn).1

lemma rounded_le (hn : n ≠ 0) : rounded n ≤ 2 ^ (n.log2 + 1) := by
  refine Nat.le_of_mul_le_mul_right (c := 2 ^ 52) ?_ (Nat.two_pow_pos 52)
  calc
    rounded n * 2 ^ 52 = places n * 2 ^ n.log2 := (places_mul hn).symm
    _ ≤ 2 ^ 53 * 2 ^ n.log2 := Nat.mul_le_mul_right _ (places_bounds hn).2
    _ = 2 ^ (n.log2 + 1) * 2 ^ 52 := by ring

lemma rounded_ne_zero (hn : n ≠ 0) : rounded n ≠ 0 :=
  (Nat.lt_of_lt_of_le (Nat.two_pow_pos _) (le_rounded hn)).ne'

lemma eq_zero_of_rounded (h : rounded n = 0) : n = 0 :=
  not_not.mp fun hpos => rounded_ne_zero hpos h

/-! ### The mantissa of a whole number -/

/-- The first 53 binary places of a number, with zeros where it has fewer. -/
def leading (n : Nat) : Nat :=
  n * 2 ^ 52 / 2 ^ n.log2

lemma leading_bounds (hn : n ≠ 0) : 2 ^ 52 ≤ leading n ∧ leading n < 2 ^ 53 := by
  constructor
  · rw [leading, Nat.le_div_iff_mul_le (Nat.two_pow_pos _), Nat.mul_comm n]
    exact Nat.mul_le_mul_left _ (Nat.log2_self_le hn)
  · rw [leading, Nat.div_lt_iff_lt_mul (Nat.two_pow_pos _)]
    calc
      n * 2 ^ 52 < 2 ^ (n.log2 + 1) * 2 ^ 52 :=
        Nat.mul_lt_mul_of_pos_right Nat.lt_log2_self (by decide)
      _ = 2 ^ 53 * 2 ^ n.log2 := by ring

lemma leading_mul (hn : n ≠ 0) :
    leading (rounded n) * 2 ^ (rounded n).log2 = rounded n * 2 ^ 52 := by
  refine Nat.div_mul_cancel ?_
  have hle := rounded_le hn
  obtain hcarry | hless := Nat.eq_or_lt_of_le hle
  · rw [hcarry, Nat.log2_two_pow]
    exact Nat.dvd_mul_right _ _
  · have hlog : (rounded n).log2 < n.log2 + 1 := (Nat.log2_lt (rounded_ne_zero hn)).mpr hless
    rw [← places_mul hn]
    exact Nat.dvd_mul_left_of_dvd (Nat.pow_dvd_pow 2 (by omega)) _

/-! ### The numbers that are rounded to the same -/

/-- The numbers that are rounded to `m * u`. They are no more than half a unit away, and the gap below
the least mantissa is half as wide. The ends belong to an even mantissa. -/
def Near (m u t : Nat) : Prop :=
  4 * (m * u) < 4 * t + (if m = 2 ^ 52 then 1 else 2) * u ∧ 4 * t < 4 * (m * u) + 2 * u ∨
    m % 2 = 0 ∧ 4 * (m * u) ≤ 4 * t + (if m = 2 ^ 52 then 1 else 2) * u ∧
      4 * t ≤ 4 * (m * u) + 2 * u

lemma near_mul {m u t c : Nat} (hc : 0 < c) : Near m (u * c) (t * c) ↔ Near m u t := by
  have hvalue : 4 * (m * (u * c)) = 4 * (m * u) * c := by ring
  have hside : ∀ x w, 4 * (x * c) + w * (u * c) = (4 * x + w * u) * c := fun x w => by ring
  have hcentre : ∀ w, 4 * (m * u) * c + w * (u * c) = (4 * (m * u) + w * u) * c := fun w => by ring
  unfold Near
  rw [hvalue, hside, hcentre, ← Nat.mul_assoc 4 t, Nat.mul_lt_mul_right hc, Nat.mul_lt_mul_right hc,
    Nat.mul_le_mul_right_iff hc, Nat.mul_le_mul_right_iff hc]

lemma rounded_eq_iff_of_short {v t : Nat} (hv : v < 2 ^ 53) : rounded t = v ↔ t = v := by
  constructor
  · intro h
    by_cases ht : t < 2 ^ 53
    · exact (rounded_eq_of_lt ht).symm.trans h
    · have hpos : t ≠ 0 := by
        rintro rfl
        exact ht (by decide)
      have hlog : 53 ≤ t.log2 := (Nat.le_log2 hpos).mpr (Nat.not_lt.mp ht)
      have hle : 2 ^ 53 ≤ rounded t := (Nat.pow_le_pow_right (by decide) hlog).trans (le_rounded hpos)
      omega
  · rintro rfl
    exact rounded_eq_of_lt hv

section Shared

variable {m k t : Nat} (hm : 2 ^ 52 ≤ m ∧ m < 2 ^ 53) (hk : 0 < k)

include hm

lemma log2_full : (m * 2 ^ k).log2 = 52 + k := by
  have hpos : m ≠ 0 := by omega
  rw [log2_mul_two_pow hpos, (Nat.log2_eq_iff hpos).mpr hm]

include hk

lemma near_of_rounded (h : rounded t = m * 2 ^ k) : Near m (2 ^ k) t := by
  have hlarge : 2 ^ 52 * 2 ≤ m * 2 ^ k :=
    Nat.mul_le_mul hm.1 (Nat.pow_le_pow_right (n := 2) (by decide) hk)
  have hlong : ¬t < 2 ^ 53 := fun ht => by
    rw [rounded_eq_of_lt ht] at h
    omega
  have hpos : t ≠ 0 := by omega
  have hlog : 52 ≤ t.log2 := (Nat.le_log2 hpos).mpr (by omega)
  obtain ⟨hr, hrounded⟩ := places_of_long hlog
  obtain ⟨hleast, hmost⟩ := places_bounds hpos
  obtain ⟨r, hplaces⟩ : ∃ r, r = places t := ⟨_, rfl⟩
  obtain ⟨j, hj⟩ : ∃ j, j = t.log2 - 52 := ⟨_, rfl⟩
  rw [← hplaces, ← hj] at hr hrounded
  rw [← hplaces] at hleast hmost
  have hsame : r * 2 ^ j = m * 2 ^ k := hrounded.symm.trans h
  obtain ⟨hlow, hhigh, htie⟩ := (roundRatio_eq_iff (Nat.two_pow_pos j)).mp hr.symm
  rw [hsame] at hlow hhigh htie
  have hlogs := log2_full hm (k := k)
  rw [← hsame] at hlogs
  obtain hcarry | rfl : r < 2 ^ 53 ∨ r = 2 ^ 53 := by omega
  · rw [log2_full ⟨hleast, hcarry⟩] at hlogs
    obtain rfl : j = k := by omega
    obtain rfl : r = m := Nat.eq_of_mul_eq_mul_right (Nat.two_pow_pos j) hsame
    have hfirst : r = 2 ^ 52 → r * 2 ^ j ≤ t := by
      rintro rfl
      rw [← Nat.pow_add, show 52 + j = t.log2 by omega]
      exact Nat.log2_self_le hpos
    unfold Near
    split
    · next hmin =>
      have hle := hfirst hmin
      omega
    · omega
  · -- the carry leads to the least mantissa of the next power of two
    rw [← Nat.pow_add, Nat.log2_two_pow] at hlogs
    obtain rfl : k = j + 1 := by omega
    have hfirst : m = 2 ^ 52 := by
      refine Nat.eq_of_mul_eq_mul_right (Nat.two_pow_pos (j + 1)) ?_
      rw [← hsame, Nat.pow_succ 2 j]
      ring
    have hbelow : t < m * 2 ^ (j + 1) := by
      rw [hfirst, ← Nat.pow_add, show 52 + (j + 1) = t.log2 + 1 by omega]
      exact Nat.lt_log2_self
    rw [Near, if_pos hfirst]
    refine .inr ⟨by rw [hfirst]; decide, ?_, by omega⟩
    have hdouble : 2 ^ (j + 1) = 2 * 2 ^ j := Nat.pow_succ'
    omega

lemma rounded_of_near (h : Near m (2 ^ k) t) : rounded t = m * 2 ^ k := by
  have hrange : ∀ j, 2 ^ 52 * 2 ^ j ≤ t → t < 2 ^ 53 * 2 ^ j →
      rounded t = roundRatio t (2 ^ j) * 2 ^ j := by
    intro j hleast hmost
    have hpos : t ≠ 0 := by
      rintro rfl
      exact absurd hleast (Nat.not_le.mpr (Nat.mul_pos (by decide) (Nat.two_pow_pos j)))
    have hlog : t.log2 = 52 + j := by
      refine (Nat.log2_eq_iff hpos).mpr ⟨?_, ?_⟩
      · rwa [Nat.pow_add]
      · rwa [Nat.add_right_comm, Nat.pow_add]
    rw [rounded, hlog, Nat.add_sub_cancel_left]
  have hleast := Nat.mul_le_mul_right (2 ^ k) hm.1
  have hmost := Nat.mul_le_mul_right (2 ^ k) hm.2
  rw [Nat.succ_mul] at hmost
  by_cases hcarry : m = 2 ^ 52 ∧ t < m * 2 ^ k
  · obtain ⟨hfirst, hbelow⟩ := hcarry
    obtain ⟨j, rfl⟩ : ∃ j, k = j + 1 := ⟨k - 1, by omega⟩
    have hdouble : 2 ^ (j + 1) = 2 * 2 ^ j := Nat.pow_succ'
    rw [Near, if_pos hfirst] at h
    rw [hfirst, hdouble] at h hbelow ⊢
    have hround : roundRatio t (2 ^ j) = 2 ^ 53 :=
      (roundRatio_eq_iff (Nat.two_pow_pos j)).mpr (by omega)
    rw [hrange j (by omega) (by omega), hround]
    ring
  · have hbelow : 2 ^ 52 * 2 ^ k ≤ t := by
      by_cases hfirst : m = 2 ^ 52
      · have hle : m * 2 ^ k ≤ t := Nat.not_lt.mp fun hlt => hcarry ⟨hfirst, hlt⟩
        exact hleast.trans hle
      · have hstep := Nat.mul_le_mul_right (2 ^ k) (show 2 ^ 52 + 1 ≤ m by omega)
        rw [Near, if_neg hfirst] at h
        omega
    have hround : roundRatio t (2 ^ k) = m := by
      refine (roundRatio_eq_iff (Nat.two_pow_pos k)).mpr ?_
      unfold Near at h
      split at h <;> omega
    have hpos := Nat.two_pow_pos k
    have habove : t < 2 ^ 53 * 2 ^ k := by
      unfold Near at h
      omega
    rw [hrange k hbelow habove, hround]

/-- A number with more places is shared by all whole numbers near it. -/
lemma rounded_eq_iff_near : rounded t = m * 2 ^ k ↔ Near m (2 ^ k) t :=
  ⟨near_of_rounded hm hk, rounded_of_near hm hk⟩

end Shared

end Microworlds.Proofs

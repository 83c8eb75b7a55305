import Microworlds.Decimal.Shortest
import Mathlib

/-!
# The search for the shortest decimal

Around a value there is an interval of numbers that are read back as it. The search goes from coarse grids
of decimals to finer ones, and it ends at the first one with a point in the interval.
-/

namespace Microworlds.Proofs

open Decimal

/-! ### Intervals and grids -/

section Span

variable {s : Span} {unit digits k m : Nat}

lemma contains_iff : s.contains k = true ↔
    s.low < k ∧ k < s.high ∨ s.closed = true ∧ s.low ≤ k ∧ k ≤ s.high := by
  unfold Span.contains
  cases s.closed with
  | true => simp; omega
  | false => simp

/-- The interval of a value, with the value inside. -/
structure Around (s : Span) : Prop where
  low : s.low < s.value
  high : s.value < s.high

variable (hs : Around s)

include hs

lemma contains_of_le_value (h : s.contains m = true) (hle : m ≤ k) (hk : k ≤ s.value) :
    s.contains k = true := by
  have hhigh := hs.high
  rw [contains_iff] at h ⊢
  obtain h | ⟨hclosed, h⟩ := h
  · exact .inl (by omega)
  · exact .inr ⟨hclosed, by omega⟩

lemma contains_of_value_le (h : s.contains m = true) (hle : k ≤ m) (hk : s.value ≤ k) :
    s.contains k = true := by
  have hlow := hs.low
  rw [contains_iff] at h ⊢
  obtain h | ⟨hclosed, h⟩ := h
  · exact .inl (by omega)
  · exact .inr ⟨hclosed, by omega⟩

omit hs in
lemma lt_next_mul (v : Nat) (hunit : 0 < unit) : v < (v / unit + 1) * unit := by
  rw [Nat.mul_comm]
  exact Nat.lt_mul_div_succ v hunit

/-- The point below the value or the one above it is in the interval if any point of the grid is. -/
lemma neighbour_contained (hunit : 0 < unit) (h : s.contains (k * unit) = true) :
    (k ≤ s.value / unit ∧ s.contains (s.value / unit * unit) = true) ∨
      (s.value / unit + 1 ≤ k ∧ s.contains ((s.value / unit + 1) * unit) = true) := by
  have hbelow : s.value / unit * unit ≤ s.value := Nat.div_mul_le_self _ _
  have habove : s.value < (s.value / unit + 1) * unit := lt_next_mul s.value hunit
  obtain hk | hk : k ≤ s.value / unit ∨ s.value / unit + 1 ≤ k := by omega
  · exact .inl ⟨hk, contains_of_le_value hs h (Nat.mul_le_mul_right unit hk) hbelow⟩
  · exact .inr ⟨hk, contains_of_value_le hs h (Nat.mul_le_mul_right unit hk) habove.le⟩

lemma nearest?_eq_none (hunit : 0 < unit) (h : s.nearest? .upward unit = none) (k : Nat) :
    ¬s.contains (k * unit) = true := by
  intro hk
  have hneighbour := neighbour_contained hs hunit hk
  unfold Span.nearest? at h
  simp only at h
  split at h
  · next hbelow habove =>
    rw [hbelow, habove] at hneighbour
    simp at hneighbour
  · cases h
  · cases h
  · split at h
    · cases h
    · split at h <;> cases h

lemma nearest?_eq_some (hunit : 0 < unit) (h : s.nearest? .upward unit = some digits) :
    s.contains (digits * unit) = true ∧ ∀ k, s.contains (k * unit) = true →
      Nat.dist (digits * unit) s.value < Nat.dist (k * unit) s.value ∨
        Nat.dist (digits * unit) s.value = Nat.dist (k * unit) s.value ∧ k ≤ digits := by
  obtain ⟨below, hb⟩ : ∃ below, below = s.value / unit := ⟨_, rfl⟩
  obtain ⟨above, ha⟩ : ∃ above, above = below + 1 := ⟨_, rfl⟩
  have hbelow : below * unit ≤ s.value := hb ▸ Nat.div_mul_le_self _ _
  have habove : s.value < above * unit := ha ▸ hb ▸ lt_next_mul s.value hunit
  have hside : ∀ k, k ≤ below ∧ k * unit ≤ below * unit ∨ k = above ∨
      above < k ∧ above * unit < k * unit := by
    intro k
    obtain hle | rfl | hgt : k ≤ below ∨ k = above ∨ above < k := by omega
    · exact .inl ⟨hle, Nat.mul_le_mul_right unit hle⟩
    · exact .inr (.inl rfl)
    · exact .inr (.inr ⟨hgt, Nat.mul_lt_mul_of_pos_right hgt hunit⟩)
  have hneighbour := fun k => neighbour_contained hs hunit (k := k)
  unfold Span.nearest? at h
  simp only [← hb, ← ha] at h hneighbour
  unfold Nat.dist
  split at h
  case h_1 => cases h
  case h_2 hin hout =>
    cases h
    refine ⟨hin, fun k hk => ?_⟩
    obtain ⟨hle, -⟩ | ⟨-, hin⟩ := hneighbour k hk
    · have hmul := Nat.mul_le_mul_right unit hle
      omega
    · exact absurd (hin.symm.trans hout) (by decide)
  case h_3 hout hin =>
    cases h
    refine ⟨hin, fun k hk => ?_⟩
    obtain ⟨-, hin⟩ | ⟨hle, -⟩ := hneighbour k hk
    · exact absurd (hin.symm.trans hout) (by decide)
    · obtain hless | rfl | hmore := hside k <;> omega
  case h_4 hbelowin habovein =>
    split at h
    case isTrue hnear =>
      cases h
      refine ⟨hbelowin, fun k _ => ?_⟩
      obtain hless | rfl | hmore := hside k <;> omega
    case isFalse hnear =>
      have hdigits : digits = above := by
        split at h <;> exact (Option.some_inj.mp h).symm
      rw [hdigits]
      refine ⟨habovein, fun k _ => ?_⟩
      obtain hless | rfl | hmore := hside k <;> omega

end Span

/-! ### The search -/

/-- The factor that makes quarters of the last binary place whole. -/
def finer (b : Binary) : Nat :=
  2 ^ (b.exponent - 2).toNat

/-- How many quarters of the last binary place there are in one. -/
def quarters (b : Binary) : Nat :=
  2 ^ (-(b.exponent - 2)).toNat

/-- The interval around a value, in such quarters. -/
def interval (b : Binary) : Span :=
  (Span.ofBinary b).refine (finer b)

/-- The point of a grid of whole numbers that is displayed, if any is in the interval. -/
def onGrid? (b : Binary) (place : Nat) : Option Nat :=
  (interval b).nearest? .upward (quarters b * 10 ^ place)

section Search

variable {b : Binary}

lemma search_succ (tries place : Nat) :
    search .upward (.ofBinary b) b.exponent (tries + 1) place =
      match onGrid? b place with
      | some digits => ⟨digits, place⟩
      | none => search .upward (.ofBinary b) b.exponent tries (place - 1) := by
  have hwhole : Nat.pow 10 (-(place : Int)).toNat = 1 := by
    rw [show (-(place : Int)).toNat = 0 by omega]
  rw [search, hwhole, Nat.mul_one]
  rfl

/-- The search ends at the first grid with a point in the interval, if this is one of whole numbers. -/
lemma search_whole (hone : onGrid? b 0 ≠ none) (tries place : Nat) (h : place < tries) :
    ∃ digits p, p ≤ place ∧ search .upward (.ofBinary b) b.exponent tries place = ⟨digits, p⟩ ∧
      onGrid? b p = some digits ∧ ∀ q, p < q → q ≤ place → onGrid? b q = none := by
  induction tries generalizing place with
  | zero => omega
  | succ tries ih =>
    have hgrid := search_succ (b := b) tries place
    cases hfound : onGrid? b place with
    | some digits =>
      rw [hfound] at hgrid
      exact ⟨digits, place, Nat.le_refl place, hgrid, hfound, fun q hq hle => by omega⟩
    | none =>
      rw [hfound] at hgrid
      cases place with
      | zero => exact absurd hfound hone
      | succ place =>
        obtain ⟨digits, p, hp, hsearch, hdigits, hnone⟩ := ih place (by omega)
        refine ⟨digits, p, by omega, ?_, hdigits, fun q hq hle => ?_⟩
        · rw [hgrid, ← hsearch]
          simp
        · obtain rfl | hless : q = place + 1 ∨ q ≤ place := by omega
          · exact hfound
          · exact hnone q hq hless

end Search

end Microworlds.Proofs

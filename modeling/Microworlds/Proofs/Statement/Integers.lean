import Microworlds.Proofs.Handler
import Microworlds.Proofs.Statement.Numerals

/-!
# Whole numbers in literals

Whole numbers, amounts, counts of frames and lists are read exactly if digits stand where they have to and
the numbers are in range. Whatever else goes wrong is about a number, or about a list without numbers.
-/

namespace Microworlds.Proofs

open Text

/-! ### What digits stand for -/

/-- The number that some digits stand for. -/
def natural? (digits : List Char) : Option Nat :=
  if digits ≠ [] ∧ digits.all Char.isDigit = true then some (Nat.ofDigitChars 10 digits 0) else none

/-- The number that digits stand for behind a sign or without one. -/
def whole? : List Char → Option Int
  | '-' :: digits => (natural? digits).map fun n : Nat => -(n : Int)
  | '+' :: digits => (natural? digits).map Int.ofNat
  | digits => (natural? digits).map Int.ofNat

/-- Whether 64 bits hold a whole number. -/
def FitsInt64 (n : Int) : Prop :=
  -9223372036854775808 ≤ n ∧ n ≤ 9223372036854775807

lemma natural?_eq_some {digits : List Char} {n : Nat} :
    natural? digits = some n ↔
      digits ≠ [] ∧ (∀ c ∈ digits, c.isDigit = true) ∧ Nat.ofDigitChars 10 digits 0 = n := by
  rw [natural?, ← List.all_eq_true]
  split
  · next h => exact ⟨fun heq => ⟨h.1, h.2, Option.some.inj heq⟩, fun heq => congrArg some heq.2.2⟩
  · next h => exact ⟨nofun, fun heq => absurd ⟨heq.1, heq.2.1⟩ h⟩

lemma natural?_eq_none {digits : List Char} (hne : digits ≠ []) :
    natural? digits = none ↔ ∃ c ∈ digits, c.isDigit = false := by
  rw [natural?, ite_eq_right_iff]
  simp [hne]

/-! ### Digits up to a limit -/

lemma readDigits_eq_ok {limit n m : Nat} {digits : List Char} (hn : n ≤ limit) :
    Literal.readDigits limit n digits = .ok m ↔
      (∀ c ∈ digits, c.isDigit = true) ∧ Nat.ofDigitChars 10 digits n = m ∧ m ≤ limit := by
  constructor
  · intro h
    induction digits generalizing n with
    | nil =>
      cases h
      exact ⟨by simp, rfl, hn⟩
    | cons c rest ih =>
      rw [Literal.readDigits] at h
      cases hvalue : digitValue? c with
      | none => rw [hvalue] at h; cases h
      | some d =>
        have hdigit : c.isDigit = true := by rw [← isSome_digitValue?, hvalue]; rfl
        rw [digitValue?_of_isDigit hdigit] at h
        simp only at h
        split at h
        · next hnext =>
          obtain ⟨hdigits, hm, hlimit⟩ := ih hnext h
          exact ⟨List.forall_mem_cons.2 ⟨hdigit, hdigits⟩, by rw [Nat.ofDigitChars_cons, hm], hlimit⟩
        · cases h
  · rintro ⟨hdigits, rfl, hlimit⟩
    exact readDigits_eq hdigits hlimit

lemma signless_eq_ok {limit : Nat} {digits : List Char} {f : Int → Int} {n : Int} :
    (if digits.isEmpty then .error .notDigit
      else Except.map f (do let m ← Literal.readDigits limit 0 digits; pure (m : Int))) =
        (.ok n : Except Literal.DigitsError Int) ↔
      ∃ m, natural? digits = some m ∧ m ≤ limit ∧ f m = n := by
  simp only [natural?_eq_some]
  split
  · next hempty => simp [List.isEmpty_iff.1 hempty]
  · next hne =>
    rw [List.isEmpty_iff] at hne
    cases hread : Literal.readDigits limit 0 digits with
    | error e =>
      refine ⟨nofun, ?_⟩
      rintro ⟨m, ⟨-, hdigits, hm⟩, hlimit, -⟩
      rw [(readDigits_eq_ok (Nat.zero_le _)).2 ⟨hdigits, hm, hlimit⟩] at hread
      cases hread
    | ok m =>
      obtain ⟨hdigits, hm, hlimit⟩ := (readDigits_eq_ok (Nat.zero_le _)).1 hread
      constructor
      · intro heq
        exact ⟨m, ⟨hne, hdigits, hm⟩, hlimit, Except.ok.inj heq⟩
      · rintro ⟨other, ⟨-, -, rfl⟩, -, rfl⟩
        rw [← hm]
        rfl

lemma readSigned_eq_ok {least greatest : Nat} {cs : List Char} {n : Int} :
    Literal.readSigned least greatest cs = .ok n ↔
      whole? cs = some n ∧ -(least : Int) ≤ n ∧ n ≤ greatest := by
  have hplain (digits : List Char) :
      (∃ m, natural? digits = some m ∧ m ≤ greatest ∧ (m : Int) = n) ↔
        (natural? digits).map Int.ofNat = some n ∧ -(least : Int) ≤ n ∧ n ≤ greatest := by
    rw [Option.map_eq_some_iff]
    constructor
    · rintro ⟨m, hm, hlimit, rfl⟩
      exact ⟨⟨m, hm, rfl⟩, by omega, by omega⟩
    · rintro ⟨⟨m, hm, rfl⟩, -, hlimit⟩
      exact ⟨m, hm, Int.ofNat_le.1 hlimit, rfl⟩
  unfold whole?
  split
  · next digits =>
    rw [Literal.readSigned, Decimal.sign]
    simp only [if_true]
    rw [signless_eq_ok, Option.map_eq_some_iff]
    constructor
    · rintro ⟨m, hm, hlimit, rfl⟩
      exact ⟨⟨m, hm, rfl⟩, by omega, by omega⟩
    · rintro ⟨⟨m, hm, rfl⟩, hlimit, -⟩
      exact ⟨m, hm, by omega, rfl⟩
  · next digits =>
    rw [Literal.readSigned, Decimal.sign]
    simp only [Bool.false_eq_true, if_false]
    rw [signless_eq_ok, hplain]
  · next hminus hplus =>
    have hsign : Decimal.sign cs = (false, cs) := by
      unfold Decimal.sign
      split
      · next digits => exact absurd rfl (hplus digits)
      · next digits => exact absurd rfl (hminus digits)
      · rfl
    rw [Literal.readSigned, hsign]
    simp only [Bool.false_eq_true, if_false]
    rw [signless_eq_ok, hplain]

/-! ### Whole numbers, amounts and frames -/

lemma integer_eq_ok {raw : String} {v : Int64} :
    Literal.integer raw = .ok v ↔ whole? (trim raw.toList) = some v.toInt := by
  have hv : -(Word.leastSigned : Int) ≤ v.toInt ∧ v.toInt ≤ Word.greatestSigned :=
    ⟨Int64.le_toInt v, Int64.toInt_le v⟩
  have hread : Literal.readSigned Word.leastSigned Word.greatestSigned (trim raw.toList) = .ok v.toInt ↔
      whole? (trim raw.toList) = some v.toInt := by
    rw [readSigned_eq_ok, and_iff_left hv]
  rw [← hread, Literal.integer]
  split
  · next n hn =>
    rw [hn, Except.ok.injEq, Except.ok.injEq]
    obtain ⟨-, hleast, hgreatest⟩ := readSigned_eq_ok.1 hn
    have hback : (Int64.ofInt n).toInt = n := by
      apply Int64.toInt_ofInt_of_le
      · exact hleast
      · exact Int.lt_add_one_of_le hgreatest
    rw [← Int64.toInt_inj, hback]
  · next hn =>
    rw [hn]
    constructor <;> intro h <;> cases h
  · next hn =>
    rw [hn]
    constructor <;> intro h <;> cases h

lemma integer_isOk {raw : String} :
    (∃ v, Literal.integer raw = .ok v) ↔ ∃ n, whole? (trim raw.toList) = some n ∧ FitsInt64 n := by
  constructor
  · rintro ⟨v, hv⟩
    exact ⟨v.toInt, integer_eq_ok.1 hv, Int64.le_toInt v, Int64.toInt_le v⟩
  · rintro ⟨n, hn, hleast, hgreatest⟩
    refine ⟨Int64.ofInt n, integer_eq_ok.2 ?_⟩
    rw [hn, Int64.toInt_ofInt_of_le hleast (Int.lt_add_one_of_le hgreatest)]

lemma amount_eq_ok {raw : String} {v : UInt64} :
    Literal.amount raw = .ok v ↔
      whole? (trim raw.toList) = some (v.toNat : Int) ∧ v.toNat ≤ 9223372036854775807 := by
  have hsize {n : Int64} (hn : ¬ n < 0) : n.toInt = n.toUInt64.toNat := by
    have hpos : 0 ≤ n.toInt := by simpa [Int64.lt_iff_toInt_lt] using hn
    have hle : 0 ≤ n := Int64.le_iff_toInt_le.2 hpos
    rw [Int64.toNat_toUInt64_of_le hle]
    exact (Int.toNat_of_nonneg hpos).symm
  constructor
  · intro h
    obtain ⟨n, hn, h⟩ := bind_eq_ok.1 h
    split_ifs at h with hneg
    cases h
    have hlimit : n.toInt ≤ 9223372036854775807 := Int64.toInt_le n
    rw [hsize hneg] at hlimit
    exact ⟨by rw [integer_eq_ok.1 hn, hsize hneg], Int.ofNat_le.1 hlimit⟩
  · rintro ⟨hwhole, hlimit⟩
    have hback : (Int64.ofInt v.toNat).toInt = v.toNat := by
      apply Int64.toInt_ofInt_of_le <;> omega
    have hpos : ¬ Int64.ofInt v.toNat < 0 := by
      rw [Int64.lt_iff_toInt_lt, hback]
      simp
    have hvalue : (Int64.ofInt v.toNat).toUInt64 = v := by
      rw [← UInt64.toNat_inj]
      exact Int.ofNat_inj.1 ((hsize hpos).symm.trans hback)
    refine bind_eq_ok.2 ⟨Int64.ofInt v.toNat, integer_eq_ok.2 (by rw [hwhole, hback]), ?_⟩
    rw [if_neg hpos, hvalue]

lemma readFrames_eq_ok {raw : String} {v : UInt32} :
    Slot.readFrames raw = .ok v ↔
      whole? (trim raw.toList) = some (v.toNat : Int) ∧ 1 ≤ v.toNat ∧ v.toNat ≤ 10000 := by
  have hrange (n : UInt64) : 1 ≤ n ∧ n ≤ Slot.maxFrames ↔ 1 ≤ n.toNat ∧ n.toNat ≤ 10000 := by
    simp only [UInt64.le_iff_toNat_le]
    rfl
  constructor
  · intro h
    obtain ⟨n, hn, h⟩ := bind_eq_ok.1 h
    split_ifs at h with hframes
    cases h
    rw [hrange] at hframes
    have hback : n.toUInt32.toNat = n.toNat := by
      rw [UInt64.toNat_toUInt32]
      exact Nat.mod_eq_of_lt (by omega)
    rw [hback]
    exact ⟨(amount_eq_ok.1 hn).1, hframes⟩
  · rintro ⟨hwhole, hframes⟩
    have hback : v.toUInt64.toNat = v.toNat := UInt32.toNat_toUInt64 v
    refine bind_eq_ok.2 ⟨v.toUInt64, amount_eq_ok.2 ⟨by rw [hwhole, hback], by omega⟩, ?_⟩
    rw [if_pos ((hrange _).2 (by rwa [hback])), UInt32.toUInt32_toUInt64]

lemma amount_isOk {raw : String} :
    (∃ v, Literal.amount raw = .ok v) ↔
      ∃ n, whole? (trim raw.toList) = some n ∧ 0 ≤ n ∧ n ≤ 9223372036854775807 := by
  constructor
  · rintro ⟨v, hv⟩
    obtain ⟨hwhole, hlimit⟩ := amount_eq_ok.1 hv
    exact ⟨v.toNat, hwhole, by omega, by omega⟩
  · rintro ⟨n, hwhole, hpos, hlimit⟩
    have hback : (UInt64.ofNat n.toNat).toNat = n.toNat := by
      apply UInt64.toNat_ofNat_of_lt'
      simp only [UInt64.size]
      omega
    refine ⟨UInt64.ofNat n.toNat, amount_eq_ok.2 ⟨?_, by omega⟩⟩
    rw [hwhole, hback, Int.toNat_of_nonneg hpos]

lemma readFrames_isOk {raw : String} :
    (∃ v, Slot.readFrames raw = .ok v) ↔
      ∃ n, whole? (trim raw.toList) = some n ∧ 1 ≤ n ∧ n ≤ 10000 := by
  constructor
  · rintro ⟨v, hv⟩
    obtain ⟨hwhole, hframes⟩ := readFrames_eq_ok.1 hv
    exact ⟨v.toNat, hwhole, by omega, by omega⟩
  · rintro ⟨n, hwhole, hpos, hlimit⟩
    have hback : (UInt32.ofNat n.toNat).toNat = n.toNat := by
      apply UInt32.toNat_ofNat_of_lt'
      simp only [UInt32.size]
      omega
    refine ⟨UInt32.ofNat n.toNat, readFrames_eq_ok.2 ⟨?_, by omega⟩⟩
    rw [hwhole, hback, Int.toNat_of_nonneg (by omega)]

/-! ### Lists -/

lemma exists_mapM_ok {α β ε : Type} {f : α → Except ε β} {items : List α} :
    (∃ values, items.mapM f = .ok values) ↔ ∀ item ∈ items, ∃ value, f item = .ok value := by
  induction items with
  | nil => exact ⟨fun _ => nofun, fun _ => ⟨[], rfl⟩⟩
  | cons item more ih =>
    rw [List.mapM_cons, List.forall_mem_cons, ← ih]
    constructor
    · rintro ⟨values, h⟩
      obtain ⟨value, hvalue, h⟩ := bind_eq_ok.1 h
      obtain ⟨others, hothers, -⟩ := bind_eq_ok.1 h
      exact ⟨⟨value, hvalue⟩, others, hothers⟩
    · rintro ⟨⟨value, hvalue⟩, others, hothers⟩
      exact ⟨value :: others, bind_eq_ok.2 ⟨value, hvalue, bind_eq_ok.2 ⟨others, hothers, rfl⟩⟩⟩

lemma exists_of_mapM_error {α β ε : Type} {f : α → Except ε β} {items : List α} {e : ε}
    (h : items.mapM f = .error e) : ∃ item ∈ items, f item = .error e := by
  induction items with
  | nil => cases h
  | cons item more ih =>
    rw [List.mapM_cons] at h
    obtain hitem | ⟨value, -, h⟩ := bind_eq_error.1 h
    · exact ⟨item, List.mem_cons_self, hitem⟩
    · obtain hmore | ⟨values, -, h⟩ := bind_eq_error.1 h
      · obtain ⟨found, hmem, hfound⟩ := ih hmore
        exact ⟨found, List.mem_cons_of_mem item hmem, hfound⟩
      · cases h

lemma integers_isOk {raw : String} :
    (∃ values, Literal.integers raw = .ok values) ↔
      trim raw.toList ≠ [] ∧
        ∀ piece ∈ pieces ',' raw.toList, ∃ n, whole? (trim piece) = some n ∧ FitsInt64 n := by
  rw [Literal.integers]
  split
  · next hempty => simp [List.isEmpty_iff.1 hempty]
  · next hsome =>
    rw [List.isEmpty_iff] at hsome
    rw [and_iff_right hsome, exists_mapM_ok]
    simp only [integer_isOk, String.toList_ofList]

/-! ### What goes wrong -/

/-- Whether an error is about a number or a list, and not about a quoted text or a missing one. -/
def AboutNumbers : LiteralError → Prop
  | .outOfRange _ | .notInteger _ | .notDecimal _ | .emptyList => True
  | .badString _ | .missing _ => False

lemma aboutNumbers_integer {raw : String} {e : LiteralError} (h : Literal.integer raw = .error e) :
    AboutNumbers e := by
  rw [Literal.integer] at h
  split at h <;> cases h <;> trivial

lemma aboutNumbers_amount {raw : String} {e : LiteralError} (h : Literal.amount raw = .error e) :
    AboutNumbers e := by
  obtain hread | ⟨n, -, h⟩ := bind_eq_error.1 h
  · exact aboutNumbers_integer hread
  · split_ifs at h
    cases h
    trivial

lemma aboutNumbers_readFrames {raw : String} {e : LiteralError} (h : Slot.readFrames raw = .error e) :
    AboutNumbers e := by
  obtain hread | ⟨n, -, h⟩ := bind_eq_error.1 h
  · exact aboutNumbers_amount hread
  · split_ifs at h
    cases h
    trivial

lemma aboutNumbers_decimal {raw : String} {e : LiteralError} (h : Literal.decimal raw = .error e) :
    AboutNumbers e := by
  unfold Literal.decimal at h
  dsimp only at h
  split at h
  · split at h <;> cases h
    trivial
  · cases h
    trivial

lemma aboutNumbers_integers {raw : String} {e : LiteralError} (h : Literal.integers raw = .error e) :
    AboutNumbers e := by
  rw [Literal.integers] at h
  split at h
  · cases h
    trivial
  · obtain ⟨piece, -, hpiece⟩ := exists_of_mapM_error h
    exact aboutNumbers_integer hpiece

end Microworlds.Proofs

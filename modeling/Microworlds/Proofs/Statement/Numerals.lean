import Microworlds.Proofs.Statement.Slots
import Mathlib

/-!
# Numbers as they are written

Digits with a point among or around them are read as the number that they stand for. The digits of other
scripts, which a line may have where it has a number, have no value, and no number with one of them is read.
-/

namespace Microworlds.Proofs

open Text

/-! ### Digits -/

lemma isSome_digitValue? (c : Char) : (Text.digitValue? c).isSome = c.isDigit := by
  cases h : c.isDigit with
  | true => rw [digitValue?_of_isDigit h]; rfl
  | false =>
    have hrange : ¬ ('0' ≤ c ∧ c ≤ '9') := by
      rintro ⟨hlow, hhigh⟩
      have hdigit : c.isDigit = true := isDigit_iff.2
        ⟨UInt32.le_iff_toNat_le.1 hlow, UInt32.le_iff_toNat_le.1 hhigh⟩
      rw [h] at hdigit
      cases hdigit
    rw [Text.digitValue?, if_neg hrange]
    rfl

lemma digits_append {digits rest : List Char} (hdigits : ∀ c ∈ digits, c.isDigit = true)
    (hrest : ∀ c more, rest = c :: more → c.isDigit = false) :
    Decimal.digits (digits ++ rest) = (digits, rest) := by
  refine span_append (fun c hc => ?_) fun c more h => ?_
  · rw [isSome_digitValue?, hdigits c hc]
  · rw [isSome_digitValue?, hrest c more h]

lemma digitsValue_eq {digits : List Char} (h : ∀ c ∈ digits, c.isDigit = true) :
    Decimal.digitsValue digits = Nat.ofDigitChars 10 digits 0 := by
  have hfrom (n : Nat) : digits.foldl (fun n d => 10 * n + (Text.digitValue? d).getD 0) n =
      Nat.ofDigitChars 10 digits n := by
    induction digits generalizing n with
    | nil => rfl
    | cons c rest ih =>
      rw [List.foldl_cons, Nat.ofDigitChars_cons, digitValue?_of_isDigit (h c List.mem_cons_self)]
      exact ih (fun d hd => h d (List.mem_cons_of_mem c hd)) _
  exact hfrom 0

/-! ### Digits of other scripts -/

/-- A digit that has no value. -/
def IsForeign (c : Char) : Prop :=
  Text.isDigit c = true ∧ c.isDigit = false

lemma foreign_above {c : Char} (h : IsForeign c) : 0x660 ≤ c.toNat := by
  obtain ⟨hdigit, hother⟩ := h
  have hall : (digitRanges.tail.all fun range => 0x660 ≤ range.1) = true := by decide +kernel
  rw [Text.isDigit, List.any_eq_true] at hdigit
  obtain ⟨range, hrange, hin⟩ := hdigit
  rw [Bool.and_eq_true, decide_eq_true_eq, decide_eq_true_eq] at hin
  obtain rfl | hrange := List.mem_cons.1 hrange
  · rw [isDigit_iff.2 ⟨UInt32.le_iff_toNat_le.1 hin.1, UInt32.le_iff_toNat_le.1 hin.2⟩] at hother
    cases hother
  · have hlow := of_decide_eq_true (List.all_eq_true.1 hall range hrange)
    exact UInt32.le_iff_toNat_le.1 (UInt32.le_trans hlow hin.1)

lemma digit_or_above {c : Char} (h : Text.isDigit c = true) : c.isDigit = true ∨ 0x660 ≤ c.toNat := by
  cases hc : c.isDigit with
  | true => exact .inl rfl
  | false => exact .inr (foreign_above ⟨h, hc⟩)

lemma isAlpha_of_digit {c : Char} (h : Text.isDigit c = true) : c.isAlpha = false := by
  have hplace : c.toNat ≤ 57 ∨ 0x660 ≤ c.toNat := (digit_or_above h).imp_left fun h => (isDigit_iff.1 h).2
  simp [Char.isAlpha, Char.isUpper, Char.isLower, UInt32.le_iff_toNat_le]
  omega

lemma dark_of_digit {c : Char} (h : Text.isDigit c = true) : isBlank c = false := by
  have hapart : (digitRanges.all fun range => 0x20 < range.1 ∧ (range.2 < 0x85 ∨ 0xA0 < range.1) ∧
      (range.2 < 0x1680 ∨ 0x1680 < range.1) ∧ (range.2 < 0x2000 ∨ 0x205F < range.1) ∧
      (range.2 < 0x3000 ∨ 0x3000 < range.1)) = true := by decide +kernel
  rw [Text.isDigit, List.any_eq_true] at h
  obtain ⟨range, hrange, hin⟩ := h
  rw [Bool.and_eq_true, decide_eq_true_eq, decide_eq_true_eq] at hin
  have hrange := of_decide_eq_true (List.all_eq_true.1 hapart range hrange)
  simp only [UInt32.lt_iff_toNat_lt, UInt32.le_iff_toNat_le] at hin hrange
  simp only [isBlank, Bool.or_eq_false_iff, Bool.and_eq_false_iff, beq_eq_false_iff_ne,
    decide_eq_false_iff_not, UInt32.le_iff_toNat_le, ne_eq, ← UInt32.toNat_inj]
  simp at hin hrange ⊢
  omega

/-! ### Texts without a word -/

lemma named?_eq_none {c : Char} {rest : List Char} (hc : c.isAlpha = false) :
    Decimal.named? (c :: rest) = none := by
  rw [Char.isAlpha, Bool.or_eq_false_iff] at hc
  have hcapital : ¬ (c.val ≥ 'A'.val ∧ c.val ≤ 'Z'.val) := by simpa [Char.isUpper] using hc.1
  have hlower : c.toLower = c := by rw [Char.toLower, dif_neg hcapital]
  have hword : ∀ (d : Char) (word : List Char), d.isLower = true →
      String.ofList ((c :: rest).map Char.toLower) ≠ String.ofList (d :: word) := by
    intro d word hletter heq
    have hhead := congrArg (·.toList.head?) heq
    simp only [String.toList_ofList, List.map_cons, List.head?_cons, hlower, Option.some.injEq] at hhead
    rw [hhead, hletter] at hc
    cases hc.2
  unfold Decimal.named?
  split
  · next heq => exact absurd heq (hword 'i' ['n', 'f'] rfl)
  · next heq => exact absurd heq (hword 'i' "nfinity".toList rfl)
  · next heq => exact absurd heq (hword 'n' ['a', 'n'] rfl)
  · rfl

lemma read?_plain {c : Char} {rest : List Char} (hletter : c.isAlpha = false) (hplus : c ≠ '+')
    (hminus : c ≠ '-') : Decimal.read? (String.ofList (c :: rest)) = Decimal.unsigned? (c :: rest) := by
  have hsign : Decimal.sign (c :: rest) = (false, c :: rest) := by
    unfold Decimal.sign
    split
    · next heq => cases heq; exact absurd rfl hplus
    · next heq => cases heq; exact absurd rfl hminus
    · rfl
  rw [Decimal.read?, String.toList_ofList, hsign]
  simp only [named?_eq_none hletter]
  cases Decimal.unsigned? (c :: rest) <;> rfl

lemma read?_minus {c : Char} {rest : List Char} (hletter : c.isAlpha = false) :
    Decimal.read? (String.ofList ('-' :: c :: rest)) = (Decimal.unsigned? (c :: rest)).map fun x => -x := by
  rw [Decimal.read?, String.toList_ofList, Decimal.sign]
  simp only [named?_eq_none hletter]
  cases Decimal.unsigned? (c :: rest) <;> rfl

/-! ### Numbers without sign -/

/-- Digits with at most one point among or around them. -/
structure IsNumeral (text : List Char) : Prop where
  fits : ∀ c ∈ text, c.isDigit = true ∨ c = '.'
  points : text.count '.' ≤ 1
  digit : ∃ c ∈ text, c.isDigit = true

lemma isNumeral_iff {text : List Char} :
    IsNumeral text ↔
      (text.all fun c => c.isDigit || c == '.') = true ∧ text.count '.' ≤ 1 ∧
        text.any Char.isDigit = true := by
  simp only [List.all_eq_true, List.any_eq_true, Bool.or_eq_true, beq_iff_eq]
  exact ⟨fun h => ⟨h.fits, h.points, h.digit⟩, fun h => ⟨h.1, h.2.1, h.2.2⟩⟩

instance (text : List Char) : Decidable (IsNumeral text) :=
  decidable_of_iff _ isNumeral_iff.symm

/-- The value nearest to the number that the digits before and behind the point stand for. -/
def numeralValue (text : List Char) : Float :=
  let behind := (text.dropWhile (· != '.')).tail
  Decimal.nearest (Nat.ofDigitChars 10 (text.filter Char.isDigit) 0) (-behind.length)

/-- A number is written with or without a point. -/
inductive NumeralParts : List Char → Prop
  | whole {digits : List Char} (hne : digits ≠ []) (hdigits : ∀ c ∈ digits, c.isDigit = true) :
    NumeralParts digits
  | pointed {digits fraction : List Char} (hne : digits ++ fraction ≠ [])
    (hdigits : ∀ c ∈ digits, c.isDigit = true) (hfraction : ∀ c ∈ fraction, c.isDigit = true) :
    NumeralParts (digits ++ '.' :: fraction)

lemma IsNumeral.parts {text : List Char} (h : IsNumeral text) : NumeralParts text := by
  have hsplit : text.takeWhile Char.isDigit ++ text.dropWhile Char.isDigit = text :=
    List.takeWhile_append_dropWhile
  have hdigits : ∀ c ∈ text.takeWhile Char.isDigit, c.isDigit = true := fun _ => List.mem_takeWhile_imp
  cases hbehind : text.dropWhile Char.isDigit with
  | nil =>
    rw [hbehind, List.append_nil] at hsplit
    obtain ⟨c, hc, -⟩ := h.digit
    rw [hsplit] at hdigits
    exact .whole (List.ne_nil_of_mem hc) hdigits
  | cons point fraction =>
    have hstop : ¬ point.isDigit = true := by
      have hhead := List.head?_dropWhile_not Char.isDigit text
      rw [hbehind] at hhead
      simpa using hhead
    rw [hbehind] at hsplit
    have hpoint : point = '.' :=
      (h.fits point (by rw [← hsplit]; simp)).resolve_left hstop
    subst hpoint
    have hone := h.points
    rw [← hsplit, List.count_append, List.count_cons_self] at hone
    have hnone : '.' ∉ fraction := fun hmem => by
      have := List.count_pos_iff.2 hmem
      omega
    have hfraction : ∀ c ∈ fraction, c.isDigit = true := fun c hc =>
      (h.fits c (by rw [← hsplit]; simp [hc])).resolve_right (by rintro rfl; exact hnone hc)
    rw [← hsplit]
    refine .pointed ?_ hdigits hfraction
    obtain ⟨c, hc, hdigit⟩ := h.digit
    intro hempty
    rw [List.append_eq_nil_iff] at hempty
    rw [← hsplit, hempty.1, hempty.2] at hc
    obtain rfl : c = '.' := by simpa using hc
    cases hdigit

lemma unsigned?_of_parts {text : List Char} (h : NumeralParts text) :
    Decimal.unsigned? text = some (numeralValue text) := by
  have hfilter {digits : List Char} (h : ∀ c ∈ digits, c.isDigit = true) :
      digits.filter Char.isDigit = digits := List.filter_eq_self.2 h
  have hpoint {digits : List Char} (h : ∀ c ∈ digits, c.isDigit = true) :
      ∀ c ∈ digits, (c != '.') = true := fun c hc => by
    rw [bne_iff_ne]
    rintro rfl
    cases h _ hc
  cases h with
  | whole hne hdigits =>
    have hread : Decimal.digits (text ++ []) = (text, []) := digits_append hdigits nofun
    rw [List.append_nil] at hread
    have hbehind : text.dropWhile (· != '.') = [] := by
      rw [List.dropWhile_eq_nil_iff]
      exact hpoint hdigits
    unfold Decimal.unsigned? numeralValue
    simp only [hread, hbehind, hfilter hdigits]
    rw [if_neg (by simpa using hne), List.append_nil, digitsValue_eq hdigits]
    rfl
  | @pointed digits fraction hne hdigits hfraction =>
    have hread : Decimal.digits (digits ++ '.' :: fraction) = (digits, '.' :: fraction) :=
      digits_append hdigits (by rintro c more ⟨⟩; rfl)
    have hmore : Decimal.digits (fraction ++ []) = (fraction, []) := digits_append hfraction nofun
    rw [List.append_nil] at hmore
    have hbehind : (digits ++ '.' :: fraction).dropWhile (· != '.') = '.' :: fraction := by
      rw [List.dropWhile_append_of_pos (hpoint hdigits)]
      rfl
    have hboth : ∀ c ∈ digits ++ fraction, c.isDigit = true :=
      List.forall_mem_append.2 ⟨hdigits, hfraction⟩
    have hkept : (digits ++ '.' :: fraction).filter Char.isDigit = digits ++ fraction := by
      rw [List.filter_append, List.filter_cons_of_neg (by decide), hfilter hdigits, hfilter hfraction]
    unfold Decimal.unsigned? numeralValue
    simp only [hread, hmore, hbehind, hkept]
    rw [if_neg (by simpa using hne), digitsValue_eq hboth]
    simp only [Decimal.exponent?, Option.bind_eq_bind, Option.bind_some, Int.zero_sub, List.tail_cons]
    rfl

lemma read?_numeral {text : List Char} (h : IsNumeral text) :
    Decimal.read? (String.ofList text) = some (numeralValue text) := by
  obtain ⟨d, hd, -⟩ := h.digit
  obtain ⟨c, rest, rfl⟩ := List.exists_cons_of_ne_nil (List.ne_nil_of_mem hd)
  rw [← unsigned?_of_parts h.parts]
  obtain hc | rfl := h.fits c List.mem_cons_self
  · exact read?_plain (isAlpha_of_digit (text_isDigit hc)) (by rintro rfl; cases hc) (by rintro rfl; cases hc)
  · exact read?_plain rfl (by decide) (by decide)

/-! ### Numbers in any digits -/

/-- Digits of any script, perhaps with a fraction. -/
inductive AnyNumeral : List Char → Prop
  | whole {digits : List Char} (hne : digits ≠ []) (hdigits : ∀ c ∈ digits, Text.isDigit c = true) :
    AnyNumeral digits
  | pointed {digits fraction : List Char} (hne : digits ≠ [])
    (hdigits : ∀ c ∈ digits, Text.isDigit c = true)
    (hfraction : ∀ c ∈ fraction, Text.isDigit c = true) :
    AnyNumeral (digits ++ '.' :: fraction)

lemma digits_of_not_foreign {digits : List Char} (hdigits : ∀ c ∈ digits, Text.isDigit c = true)
    (h : ∀ c ∈ digits, ¬ IsForeign c) : ∀ c ∈ digits, c.isDigit = true := by
  intro c hc
  by_contra hother
  exact h c hc ⟨hdigits c hc, by simpa using hother⟩

lemma AnyNumeral.parts {text : List Char} (h : AnyNumeral text) (hown : ∀ c ∈ text, ¬ IsForeign c) :
    NumeralParts text := by
  cases h with
  | whole hne hdigits => exact .whole hne (digits_of_not_foreign hdigits hown)
  | @pointed digits fraction hne hdigits hfraction =>
    have hfront : ∀ c ∈ digits, ¬ IsForeign c := fun c hc => hown c (by simp [hc])
    have hbehind : ∀ c ∈ fraction, ¬ IsForeign c := fun c hc => hown c (by simp [hc])
    exact .pointed (by simp [hne]) (digits_of_not_foreign hdigits hfront)
      (digits_of_not_foreign hfraction hbehind)

lemma digits_foreign {digits : List Char} (rest : List Char) (hdigits : ∀ c ∈ digits, Text.isDigit c = true)
    (h : ∃ c ∈ digits, IsForeign c) :
    ∃ front c more, Decimal.digits (digits ++ rest) = (front, c :: more) ∧ IsForeign c := by
  have hspan (cs : List Char) : Decimal.digits cs =
      (cs.takeWhile fun d => (digitValue? d).isSome, cs.dropWhile fun d => (digitValue? d).isSome) :=
    List.span_eq_takeWhile_dropWhile _ _
  induction digits with
  | nil => simp at h
  | cons d digits ih =>
    have hd := hdigits d List.mem_cons_self
    cases hvalue : d.isDigit with
    | false =>
      refine ⟨[], d, digits ++ rest, ?_, hd, hvalue⟩
      rw [hspan, List.cons_append, List.takeWhile_cons_of_neg, List.dropWhile_cons_of_neg] <;>
        simp [isSome_digitValue?, hvalue]
    | true =>
      have hlater : ∃ c ∈ digits, IsForeign c := by
        obtain ⟨c, hc, hforeign⟩ := h
        obtain rfl | hc := List.mem_cons.1 hc
        · exact absurd (hvalue.symm.trans hforeign.2) (by decide)
        · exact ⟨c, hc, hforeign⟩
      obtain ⟨front, c, more, hread, hforeign⟩ :=
        ih (fun c hc => hdigits c (List.mem_cons_of_mem d hc)) hlater
      refine ⟨d :: front, c, more, ?_, hforeign⟩
      rw [hspan] at hread ⊢
      rw [List.cons_append, List.takeWhile_cons_of_pos, List.dropWhile_cons_of_pos]
      · rw [Prod.mk.injEq] at hread ⊢
        exact ⟨congrArg _ hread.1, hread.2⟩
      all_goals rw [isSome_digitValue?, hvalue]

lemma exponent?_foreign {c : Char} (h : IsForeign c) (more : List Char) :
    Decimal.exponent? (c :: more) = none := by
  have hletter : ¬ (c = 'e' || c = 'E') = true := by
    rw [Bool.or_eq_true, decide_eq_true_eq, decide_eq_true_eq]
    rintro (rfl | rfl) <;> cases h.1
  rw [Decimal.exponent?, if_neg hletter]

lemma AnyNumeral.unsigned?_foreign {text : List Char} (h : AnyNumeral text)
    (hforeign : ∃ c ∈ text, IsForeign c) : Decimal.unsigned? text = none := by
  -- No reader goes on behind the digit without a value.
  have hstop {digits : List Char} (rest : List Char) (hdigits : ∀ c ∈ digits, Text.isDigit c = true)
      (hforeign : ∃ c ∈ digits, IsForeign c) : Decimal.unsigned? (digits ++ rest) = none := by
    obtain ⟨front, c, more, hread, hc⟩ := digits_foreign rest hdigits hforeign
    have hpoint : c ≠ '.' := by
      rintro rfl
      cases hc.1
    unfold Decimal.unsigned?
    rw [hread]
    simp only
    split
    · next heq => cases heq; exact absurd rfl hpoint
    · rw [exponent?_foreign hc]
      split <;> rfl
  cases h with
  | whole hne hdigits =>
    have hnone := hstop [] hdigits hforeign
    rwa [List.append_nil] at hnone
  | @pointed digits fraction hne hdigits hfraction =>
    by_cases hfront : ∃ c ∈ digits, IsForeign c
    · exact hstop _ hdigits hfront
    · have hbehind : ∃ c ∈ fraction, IsForeign c := by
        obtain ⟨c, hc, hforeign⟩ := hforeign
        obtain hc | hc := List.mem_append.1 hc
        · exact absurd ⟨c, hc, hforeign⟩ hfront
        · obtain rfl | hc := List.mem_cons.1 hc
          · cases hforeign.1
          · exact ⟨c, hc, hforeign⟩
      have hread : Decimal.digits (digits ++ '.' :: fraction) = (digits, '.' :: fraction) :=
        digits_append (digits_of_not_foreign hdigits fun c hc h => hfront ⟨c, hc, h⟩)
          (by rintro c more ⟨⟩; rfl)
      obtain ⟨front, c, more, hmore, hc⟩ := digits_foreign [] hfraction hbehind
      rw [List.append_nil] at hmore
      unfold Decimal.unsigned?
      simp only [hread, hmore, exponent?_foreign hc]
      split <;> rfl

end Microworlds.Proofs

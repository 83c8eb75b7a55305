import Microworlds.Decimal.Layout
import Microworlds.Proofs.Statement.Quoting

/-!
# Literals are read as they are written

Whole numbers in decimal digits, texts in quotes with a backslash before what a quoted text cannot
hold, and lists of whole numbers with commas between them.
-/

namespace Microworlds.Proofs

open Text Literal

/-- The digits of a whole number, with a minus if it is negative. -/
def signedDigits (n : Int) : List Char :=
  if n < 0 then '-' :: Nat.toDigits 10 n.natAbs else Nat.toDigits 10 n.natAbs

lemma toList_toString_int (n : Int) : (toString n).toList = signedDigits n := by
  unfold signedDigits
  cases n with
  | ofNat m =>
    have h : ¬ Int.ofNat m < 0 := by simp
    rw [if_neg h]
    exact Nat.toList_repr
  | negSucc m =>
    have h : Int.negSucc m < 0 := Int.negSucc_lt_zero m
    rw [if_pos h]
    change ("-" ++ (m + 1).repr).toList = _
    simp [Nat.toList_repr]

lemma isDigit_of_mem_toDigits {n : Nat} {c : Char} (h : c ∈ Nat.toDigits 10 n) :
    c.isDigit = true :=
  Nat.isDigit_of_mem_toDigits (by decide) (by decide) h

lemma mem_signedDigits {n : Int} {c : Char} (h : c ∈ signedDigits n) :
    c = '-' ∨ c.isDigit = true := by
  unfold signedDigits at h
  split at h
  · obtain rfl | h := List.mem_cons.mp h
    · exact .inl rfl
    · exact .inr (isDigit_of_mem_toDigits h)
  · exact .inr (isDigit_of_mem_toDigits h)

lemma visible_of_mem_signedDigits {n : Int} {c : Char} (h : c ∈ signedDigits n) : Visible c := by
  obtain rfl | h := mem_signedDigits h
  · exact ⟨by decide, by decide⟩
  · exact visible_of_isDigit h

lemma signedDigits_ne_nil (n : Int) : signedDigits n ≠ [] := by
  unfold signedDigits
  split
  · simp
  · exact Nat.toDigits_ne_nil

lemma solid_signedDigits (n : Int) : Solid (signedDigits n) :=
  .of_forall (signedDigits_ne_nil n) fun _ hc => (visible_of_mem_signedDigits hc).not_blank

lemma le_ofDigitChars (n : Nat) (digits : List Char) : n ≤ Nat.ofDigitChars 10 digits n := by
  rw [Nat.ofDigitChars_eq_ofDigitChars_zero]
  have hpos : 0 < 10 ^ digits.length := Nat.pow_pos (by decide)
  have hn : n ≤ 10 ^ digits.length * n := Nat.le_mul_of_pos_left n hpos
  omega

lemma readDigits_eq {limit n : Nat} {digits : List Char} (hdigits : ∀ c ∈ digits, c.isDigit = true)
    (hlimit : Nat.ofDigitChars 10 digits n ≤ limit) :
    readDigits limit n digits = .ok (Nat.ofDigitChars 10 digits n) := by
  induction digits generalizing n with
  | nil => rfl
  | cons c rest ih =>
    rw [Nat.ofDigitChars_cons] at hlimit ⊢
    have hnext : 10 * n + (c.toNat - '0'.toNat) ≤ limit :=
      Nat.le_trans (le_ofDigitChars _ rest) hlimit
    rw [readDigits, digitValue?_of_isDigit (hdigits c List.mem_cons_self)]
    simp only [hnext, if_true]
    exact ih (fun d hd => hdigits d (List.mem_cons_of_mem c hd)) hlimit

lemma readDigits_toDigits {limit n : Nat} (h : n ≤ limit) :
    readDigits limit 0 (Nat.toDigits 10 n) = .ok n := by
  have hdigits : ∀ c ∈ Nat.toDigits 10 n, c.isDigit = true := fun _ hc => isDigit_of_mem_toDigits hc
  have hread : readDigits limit 0 (Nat.toDigits 10 n) = _ :=
    readDigits_eq hdigits (by rwa [Nat.ofDigitChars_ten_toDigits])
  rwa [Nat.ofDigitChars_ten_toDigits] at hread

lemma sign_toDigits (n : Nat) : Decimal.sign (Nat.toDigits 10 n) = (false, Nat.toDigits 10 n) := by
  obtain ⟨c, rest, hdigits⟩ := List.exists_cons_of_ne_nil (Nat.toDigits_ne_nil (n := n) (b := 10))
  have hc : c.isDigit = true := isDigit_of_mem_toDigits (n := n) (by simp [hdigits])
  rw [hdigits]
  unfold Decimal.sign
  split
  · next h => cases h; cases hc
  · next h => cases h; cases hc
  · rfl

lemma readSigned_signedDigits {least greatest : Nat} {n : Int} (hleast : -(least : Int) ≤ n)
    (hgreatest : n ≤ greatest) : readSigned least greatest (signedDigits n) = .ok n := by
  have hnonempty : (Nat.toDigits 10 n.natAbs).isEmpty = false := by
    simp [Nat.toDigits_ne_nil]
  unfold signedDigits readSigned
  by_cases hn : n < 0
  · have hread : readDigits least 0 (Nat.toDigits 10 n.natAbs) = .ok n.natAbs :=
      readDigits_toDigits (by omega)
    have habs : -(n.natAbs : Int) = n := by omega
    simp only [hn, if_true, Decimal.sign, hread, hnonempty, Bool.false_eq_true, if_false]
    exact congrArg Except.ok habs
  · have hread : readDigits greatest 0 (Nat.toDigits 10 n.natAbs) = .ok n.natAbs :=
      readDigits_toDigits (by omega)
    have habs : (n.natAbs : Int) = n := by omega
    simp only [hn, if_false, sign_toDigits, hread, hnonempty, Bool.false_eq_true]
    exact congrArg Except.ok habs

lemma integer_of_signedDigits {text : String} {n : Int} (htext : text.toList = signedDigits n)
    (hleast : -(Word.leastSigned : Int) ≤ n) (hgreatest : n ≤ Word.greatestSigned) :
    Literal.integer text = .ok (Int64.ofInt n) := by
  rw [Literal.integer, htext, trim_of_solid (solid_signedDigits n)]
  simp only [readSigned_signedDigits hleast hgreatest]

lemma toList_toString_int64 (n : Int64) : (toString n).toList = signedDigits n.toInt :=
  toList_toString_int n.toInt

lemma integer_toString (n : Int64) : Literal.integer (toString n) = .ok n := by
  rw [integer_of_signedDigits (toList_toString_int64 n) (Int64.le_toInt n) (Int64.toInt_le n),
    Int64.ofInt_toInt]

lemma toList_toString_nat (n : Nat) : (toString n).toList = Nat.toDigits 10 n :=
  Nat.toList_repr

lemma signedDigits_natCast (n : Nat) : signedDigits n = Nat.toDigits 10 n := by
  have hn : ¬ (n : Int) < 0 := by omega
  rw [signedDigits, if_neg hn, Int.natAbs_natCast]

lemma amount_of_digits {text : String} {n : Nat} (htext : text.toList = Nat.toDigits 10 n)
    (h : n ≤ Word.greatestSigned) : Literal.amount text = .ok (UInt64.ofNat n) := by
  rw [← signedDigits_natCast] at htext
  have hint := integer_of_signedDigits htext (by omega) (by exact_mod_cast h)
  have hvalue : (Int64.ofInt n).toInt = n := by
    apply Int64.toInt_ofInt_of_le
    · simp
    · simp only [Word.greatestSigned] at h
      omega
  have hpositive : ¬ Int64.ofInt n < 0 := by
    rw [Int64.lt_iff_toInt_lt, hvalue]
    simp
  have hback : (Int64.ofInt n).toUInt64 = UInt64.ofNat n := by
    rw [Int64.ofInt_eq_ofNat, Int64.toUInt64_ofNat']
  simp [Literal.amount, hint, hpositive, hback, bind, Except.bind]

/-- How a character stands in a quoted text. -/
def escapedChar (c : Char) : List Char :=
  if c = '\\' then ['\\', '\\']
  else if c = '"' then ['\\', '"']
  else if c = '\n' then ['\\', 'n']
  else if c = '\t' then ['\\', 't']
  else [c]

def escaped (text : List Char) : List Char :=
  text.flatMap escapedChar

def quote (text : String) : String :=
  String.ofList ('"' :: (escaped text.toList ++ ['"']))

lemma escaped_cons (c : Char) (rest : List Char) :
    escaped (c :: rest) = escapedChar c ++ escaped rest :=
  List.flatMap_cons

lemma spells_escaped (text : List Char) : SpellsQuoted .double (escaped text) text :=
  spells_spelled .double text

lemma toList_quote_enclosed (text : String) :
    (quote text).toList = QuoteMark.double.enclosed (escaped text.toList) :=
  String.toList_ofList

lemma newline_not_mem_escaped (text : List Char) : '\n' ∉ escaped text := by
  induction text with
  | nil => simp [escaped]
  | cons c more ih =>
    have hc : '\n' ∉ escapedChar c := by
      unfold escapedChar
      split_ifs with hslash hquote hline htab
      all_goals simp
      exact Ne.symm hline
    rw [escaped_cons, List.mem_append]
    exact fun h => h.elim hc ih

lemma solid_quote (text : String) : Solid (quote text).toList := by
  have hline := newline_not_mem_escaped text.toList
  rw [quote, String.toList_ofList]
  exact ⟨⟨'"', _, rfl, by decide⟩, ⟨'"' :: escaped text.toList, '"', rfl, by decide⟩, by simpa⟩

lemma quoted_quote (text : String) : Literal.quoted (quote text) = .ok text := by
  rw [quoted_enclosed (toList_quote_enclosed text) (spells_escaped text.toList), String.ofList_toList]

lemma value_quote (text : String) : Literal.value (quote text) = .ok text := by
  rw [value_enclosed (toList_quote_enclosed text) (spells_escaped text.toList), String.ofList_toList]

def listed (values : List Int64) : String :=
  ",".intercalate (values.map toString)

lemma toList_listed (values : List Int64) :
    (listed values).toList = [','].intercalate (values.map fun n => (toString n).toList) := by
  rw [listed, String.toList_intercalate, List.map_map]
  rfl

lemma mem_listed {values : List Int64} {c : Char} (h : c ∈ (listed values).toList) :
    c = ',' ∨ c = '-' ∨ c.isDigit = true := by
  rw [toList_listed] at h
  refine mem_intercalate (p := fun c => c = ',' ∨ c = '-' ∨ c.isDigit = true) (.inl rfl) ?_ c h
  intro piece hpiece d hd
  obtain ⟨n, -, rfl⟩ := List.mem_map.mp hpiece
  rw [toList_toString_int64] at hd
  exact .inr (mem_signedDigits hd)

lemma pieces_listed {values : List Int64} (h : values ≠ []) :
    pieces ',' (listed values).toList = values.map fun n => (toString n).toList := by
  rw [toList_listed]
  apply pieces_intercalate (by simpa using h)
  intro piece hpiece hcomma
  obtain ⟨n, -, rfl⟩ := List.mem_map.mp hpiece
  rw [toList_toString_int64] at hcomma
  obtain h | h := mem_signedDigits hcomma <;> cases h

lemma solid_listed {values : List Int64} (h : values ≠ []) : Solid (listed values).toList := by
  apply Solid.of_forall
  · intro hempty
    have hpieces := pieces_listed h
    obtain ⟨n, more, rfl⟩ := List.exists_cons_of_ne_nil h
    rw [hempty, List.map_cons, toList_toString_int64] at hpieces
    exact signedDigits_ne_nil n.toInt (List.cons.inj hpieces).1.symm
  · intro c hc
    obtain rfl | rfl | hdigit := mem_listed hc
    · decide
    · decide
    · exact (visible_of_isDigit hdigit).not_blank

lemma mapM_integer (values : List Int64) :
    ((values.map fun n => (toString n).toList).mapM fun piece =>
      Literal.integer (String.ofList piece)) = .ok values := by
  induction values with
  | nil => rfl
  | cons n more ih =>
    rw [List.map_cons, List.mapM_cons, ih, String.ofList_toList, integer_toString]
    rfl

lemma integers_listed {values : List Int64} (h : values ≠ []) :
    Literal.integers (listed values) = .ok values := by
  have hnonempty : (listed values).toList.isEmpty = false := by
    obtain ⟨c, more, htext, -⟩ := (solid_listed h).first
    rw [htext]
    rfl
  rw [Literal.integers, trim_of_solid (solid_listed h), hnonempty, pieces_listed h]
  exact mapM_integer values

/-- Digits, perhaps with a fraction. -/
inductive Unsigned : List Char → Prop where
  | whole (digits : List Char) (hne : digits ≠ []) (h : ∀ c ∈ digits, c.isDigit = true) :
      Unsigned digits
  | point (digits fraction : List Char) (hne : digits ≠ []) (h : ∀ c ∈ digits, c.isDigit = true)
      (hfne : fraction ≠ []) (hf : ∀ c ∈ fraction, c.isDigit = true) :
      Unsigned (digits ++ '.' :: fraction)

lemma unsigned_pointed {digits : List Char} (position : Int) (hne : digits ≠ [])
    (h : ∀ c ∈ digits, c.isDigit = true) :
    Unsigned (Decimal.Layout.text.pointed digits position).toList := by
  unfold Decimal.Layout.pointed
  by_cases hposition : position ≤ 0
  · have htext : ("0." ++ String.ofList (List.replicate (-position).toNat '0' ++ digits)).toList =
        ['0'] ++ '.' :: (List.replicate (-position).toNat '0' ++ digits) := by
      simp
    rw [if_pos hposition, htext]
    refine .point _ _ (by simp) (by simp) (by simp [hne]) ?_
    intro c hc
    obtain hc | hc := List.mem_append.mp hc
    · rw [(List.mem_replicate.mp hc).2]
      rfl
    · exact h c hc
  · rw [if_neg hposition]
    dsimp only
    by_cases hlength : digits.length ≤ position.toNat
    · have htext : (String.ofList (digits ++ List.replicate (position.toNat - digits.length) '0') ++
          Decimal.Layout.text.wholeEnd).toList =
            digits ++ List.replicate (position.toNat - digits.length) '0' := by
        simp [Decimal.Layout.text]
      rw [if_pos hlength, htext]
      refine .whole _ (by simp [hne]) ?_
      intro c hc
      obtain hc | hc := List.mem_append.mp hc
      · exact h c hc
      · rw [(List.mem_replicate.mp hc).2]
        rfl
    · have htext : (String.ofList (digits.take position.toNat) ++ "." ++
          String.ofList (digits.drop position.toNat)).toList =
            digits.take position.toNat ++ '.' :: digits.drop position.toNat := by
        simp
      rw [if_neg hlength, htext]
      refine .point _ _ ?_ (fun c hc => h c (List.mem_of_mem_take hc)) ?_
        fun c hc => h c (List.mem_of_mem_drop hc)
      · rw [ne_eq, List.take_eq_nil_iff]
        rintro (hzero | hempty)
        · omega
        · exact hne hempty
      · rw [ne_eq, List.drop_eq_nil_iff]
        exact hlength

/-- A number as a text shows it: digits, perhaps with a minus and with a fraction. -/
def NumberText (text : List Char) : Prop :=
  ∃ size, Unsigned size ∧ (text = size ∨ text = '-' :: size)

lemma exists_binary {x : Float} (hfinite : x.isFinite = true)
    (hread : Decimal.read? (Decimal.display x) = some x) :
    ∃ b, Decimal.Binary.ofFloat x = some b := by
  have hshown : (Decimal.read? (Decimal.display x)).map Float.isFinite = some true := by
    rw [hread, Option.map_some, hfinite]
  cases hbinary : Decimal.Binary.ofFloat x with
  | some b => exact ⟨b, rfl⟩
  | none =>
    have hnan : (Decimal.read? "NaN").map Float.isFinite = some false := by decide +kernel
    have hneg : (Decimal.read? "-inf").map Float.isFinite = some false := by decide +kernel
    have hpos : (Decimal.read? "inf").map Float.isFinite = some false := by decide +kernel
    simp only [Decimal.display, Decimal.Layout.write, hbinary, Decimal.Layout.text] at hshown
    split_ifs at hshown
    · rw [hnan] at hshown
      cases hshown
    · rw [hneg] at hshown
      cases hshown
    · rw [hpos] at hshown
      cases hshown

lemma unsigned_scaled (d : Decimal.Scaled) : Unsigned (Decimal.Layout.text.scaled d).toList := by
  have hfull : Decimal.Layout.text.inFull (d.place + (Nat.toDigits 10 d.digits).length) = true := rfl
  rw [Decimal.Layout.scaled]
  simp only [hfull, if_true]
  exact unsigned_pointed _ Nat.toDigits_ne_nil fun c hc => isDigit_of_mem_toDigits hc

lemma numberText_display {x : Float} (hfinite : x.isFinite = true)
    (hread : Decimal.read? (Decimal.display x) = some x) :
    NumberText (Decimal.display x).toList := by
  obtain ⟨b, hb⟩ := exists_binary hfinite hread
  have hsize : Unsigned (if b.mantissa = 0 then "0" ++ Decimal.Layout.text.wholeEnd else
      Decimal.Layout.text.scaled (Decimal.shortest Decimal.Layout.text.tie b)).toList := by
    split
    · exact .whole ['0'] (by simp) (by simp)
    · exact unsigned_scaled _
  refine ⟨_, hsize, ?_⟩
  simp only [Decimal.display, Decimal.Layout.write, hb]
  cases b.negative with
  | true => exact .inr (by simp)
  | false => exact .inl (by simp)

end Microworlds.Proofs

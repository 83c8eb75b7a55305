import Microworlds.Proofs.Statement.Literals

/-!
# Slots are read as they are written

Every value in the range of a slot has a text, `written`. Wherever this text stands, and whatever comes
behind it as long as it cannot be taken for more of it, the slot takes exactly this text and reads the
value again.
-/

namespace Microworlds.Proofs

open Text

/-- A letter or an underscore, and then letters, digits and underscores. -/
def IsName (text : String) : Prop :=
  ∃ c more, text.toList = c :: more ∧ startsName c = true ∧ ∀ d ∈ more, continuesName d = true

/-- Not empty and without white space. -/
def IsToken (text : String) : Prop :=
  text.toList ≠ [] ∧ ∀ c ∈ text.toList, isBlank c = false

/-- A line that is not empty and that trimming leaves as it is. -/
def IsFormula (text : String) : Prop :=
  text.toList ≠ [] ∧ trim text.toList = text.toList ∧ '\n' ∉ text.toList

/-- Finite, and shown by a text that is read as the same number. -/
def IsDecimal (x : Float) : Prop :=
  x.isFinite = true ∧ Decimal.read? (Decimal.display x) = some x

/-- A number that a signed number of 64 bits can hold. -/
def IsAmount (n : UInt64) : Prop :=
  n.toNat ≤ Word.greatestSigned

/-- A number of frames that one statement may ask for. -/
def IsFrames (n : UInt32) : Prop :=
  1 ≤ n.toNat ∧ n.toNat ≤ 10000

/-- The values of a slot that have a text. -/
def InRange : (s : Slot) → s.Value → Prop
  | .number, x => IsDecimal x
  | .amount, n => IsAmount n
  | .frames, n => IsFrames n
  | .name, text => IsName text
  | .token, text => IsToken text
  | .formula, text => IsFormula text
  | .integers, values => values ≠ []
  | .resource, name => name ∈ ["wood", "stone", "food", "metal"]
  | .integer, _ | .quoted, _ | .value, _ | .sign, _ | .comparison, _ | .sortMethod, _
  | .direction, _ | .switch, _ => True

def written : (s : Slot) → s.Value → String
  | .integer, n => toString n
  | .number, x => Decimal.display x
  | .amount, n => toString n
  | .frames, n => toString n
  | .name, text | .token, text | .formula, text | .resource, text => text
  | .quoted, text | .value, text => quote text
  | .integers, values => listed values
  | .sign, sign => sign.symbol
  | .comparison, comparison => comparison.symbol
  | .sortMethod, method => method.name
  | .direction, direction => direction.name
  | .switch, on => if on then "on" else "off"

/-- Whether the text of a slot cannot go on with this character. -/
def stops : Slot → Char → Bool
  | .integer, c | .amount, c | .frames, c => !isDigit c
  | .number, c => !isDigit c && c != '.'
  | .name, c => !continuesName c
  | .token, c => isBlank c
  | .formula, _ => false
  | .integers, c => c == ']'
  | .comparison, c => c != '='
  | .quoted, _ | .value, _ | .sign, _ | .sortMethod, _ | .direction, _ | .resource, _
  | .switch, _ => true

/-- Whether the text of a slot ends where this text begins. -/
def Stops (s : Slot) (rest : List Char) : Prop :=
  ∀ c more, rest = c :: more → stops s c = true

lemma span_append {fits : Char → Bool} {text rest : List Char}
    (htext : ∀ c ∈ text, fits c = true) (hrest : ∀ c more, rest = c :: more → fits c = false) :
    (text ++ rest).span fits = (text, rest) := by
  rw [List.span_eq_takeWhile_dropWhile, List.takeWhile_append_of_pos htext,
    List.dropWhile_append_of_pos htext]
  cases rest with
  | nil => simp
  | cons c more => simp [hrest c more rfl]

lemma takeSome?_append {fits : Char → Bool} {text rest : List Char} (hne : text ≠ [])
    (htext : ∀ c ∈ text, fits c = true) (hrest : ∀ c more, rest = c :: more → fits c = false) :
    Slot.takeSome? fits (text ++ rest) = some (text, rest) := by
  have hspan := span_append htext hrest
  obtain ⟨c, more, rfl⟩ := List.exists_cons_of_ne_nil hne
  rw [Slot.takeSome?, hspan]

lemma takeInteger?_digits {digits rest : List Char} (hne : digits ≠ [])
    (hdigits : ∀ c ∈ digits, c.isDigit = true)
    (hrest : ∀ c more, rest = c :: more → isDigit c = false) :
    Slot.takeInteger? (digits ++ rest) = some (digits, rest) := by
  rw [Slot.takeInteger?.eq_def]
  split
  · next cs more h =>
    obtain ⟨c, others, rfl⟩ := List.exists_cons_of_ne_nil hne
    cases h
    cases hdigits '-' List.mem_cons_self
  · exact takeSome?_append hne (fun c hc => text_isDigit (hdigits c hc)) hrest

lemma takeInteger?_minus {digits rest : List Char} (hne : digits ≠ [])
    (hdigits : ∀ c ∈ digits, c.isDigit = true)
    (hrest : ∀ c more, rest = c :: more → isDigit c = false) :
    Slot.takeInteger? ('-' :: (digits ++ rest)) = some ('-' :: digits, rest) := by
  rw [Slot.takeInteger?,
    takeSome?_append hne (fun c hc => text_isDigit (hdigits c hc)) hrest, Option.map_some]

lemma takeInteger?_signedDigits (n : Int) {rest : List Char}
    (hrest : ∀ c more, rest = c :: more → isDigit c = false) :
    Slot.takeInteger? (signedDigits n ++ rest) = some (signedDigits n, rest) := by
  unfold signedDigits
  split
  · exact takeInteger?_minus Nat.toDigits_ne_nil (fun c hc => isDigit_of_mem_toDigits hc) hrest
  · exact takeInteger?_digits Nat.toDigits_ne_nil (fun c hc => isDigit_of_mem_toDigits hc) hrest

lemma point_not_digit (fraction : List Char) (c : Char) (more : List Char)
    (h : '.' :: fraction = c :: more) : isDigit c = false := by
  cases h
  decide

lemma takeNumber?_of_whole {whole cs rest : List Char}
    (hwhole : Slot.takeInteger? cs = some (whole, rest))
    (hrest : ∀ c more, rest = c :: more → c ≠ '.') :
    Slot.takeNumber? cs = some (whole, rest) := by
  simp only [Slot.takeNumber?, hwhole, Option.bind_eq_bind, Option.bind_some]
  split
  · next behind => exact absurd rfl (hrest '.' behind rfl)
  · rfl

lemma takeNumber?_of_point {whole cs fraction rest : List Char}
    (hwhole : Slot.takeInteger? cs = some (whole, '.' :: (fraction ++ rest)))
    (hne : fraction ≠ []) (hfraction : ∀ c ∈ fraction, c.isDigit = true)
    (hrest : ∀ c more, rest = c :: more → isDigit c = false) :
    Slot.takeNumber? cs = some (whole ++ '.' :: fraction, rest) := by
  have hbehind := takeSome?_append hne (fun c hc => text_isDigit (hfraction c hc)) hrest
  simp [Slot.takeNumber?, hwhole, hbehind]

lemma takeNumber?_numberText {text rest : List Char} (htext : NumberText text)
    (hrest : ∀ c more, rest = c :: more → isDigit c = false ∧ c ≠ '.') :
    Slot.takeNumber? (text ++ rest) = some (text, rest) := by
  have hdigit : ∀ c more, rest = c :: more → isDigit c = false := fun c more h => (hrest c more h).1
  have hpoint : ∀ c more, rest = c :: more → c ≠ '.' := fun c more h => (hrest c more h).2
  obtain ⟨size, hsize, rfl | rfl⟩ := htext
  · cases hsize with
    | whole digits hne h => exact takeNumber?_of_whole (takeInteger?_digits hne h hdigit) hpoint
    | point digits fraction hne h hfne hf =>
      rw [List.append_assoc]
      exact takeNumber?_of_point (takeInteger?_digits hne h (point_not_digit _)) hfne hf hdigit
  · cases hsize with
    | whole digits hne h => exact takeNumber?_of_whole (takeInteger?_minus hne h hdigit) hpoint
    | point digits fraction hne h hfne hf =>
      rw [List.cons_append, List.append_assoc]
      exact takeNumber?_of_point (takeInteger?_minus hne h (point_not_digit _)) hfne hf hdigit

lemma takeQuoted?_quote (text : String) (rest : List Char) :
    Slot.takeQuoted? ((quote text).toList ++ rest) = some ((quote text).toList, rest) := by
  rw [toList_quote_enclosed]
  exact takeQuoted?_enclosed (spells_escaped text.toList) rest

lemma dropFront?_append (front rest : List Char) :
    Slot.dropFront? front (front ++ rest) = some rest := by
  induction front with
  | nil => rfl
  | cons c more ih => simp [Slot.dropFront?, ih]

lemma take?_comparison (comparison : Comparison) {rest : List Char}
    (hrest : Stops .comparison rest) :
    Slot.take? .comparison (comparison.symbol.toList ++ rest) =
      some (comparison.symbol.toList, rest) := by
  have hequal : Slot.dropFront? ['='] rest = none := by
    cases rest with
    | nil => rfl
    | cons c more =>
      have hc : c ≠ '=' := by simpa [stops] using hrest c more rfl
      rw [Slot.dropFront?, if_neg (Ne.symm hc)]
  cases comparison <;>
    simp [Slot.take?, Slot.meanings, Slot.takeWord?, Slot.dropFront?, Comparison.symbol, hequal]

lemma take?_written (s : Slot) (v : s.Value) (hv : InRange s v) (rest : List Char)
    (hrest : Stops s rest) :
    s.take? ((written s v).toList ++ rest) = some ((written s v).toList, rest) := by
  cases s with
  | integer =>
    rw [written, toList_toString_int64]
    exact takeInteger?_signedDigits v.toInt fun c more h => by simpa [stops] using hrest c more h
  | number =>
    apply takeNumber?_numberText (numberText_display hv.1 hv.2)
    intro c more h
    simpa [stops] using hrest c more h
  | amount =>
    have htext : (written .amount v).toList = Nat.toDigits 10 v.toNat := toList_toString_nat v.toNat
    rw [htext]
    exact takeSome?_append Nat.toDigits_ne_nil
      (fun c hc => text_isDigit (isDigit_of_mem_toDigits hc))
      fun c more h => by simpa [stops] using hrest c more h
  | frames =>
    have htext : (written .frames v).toList = Nat.toDigits 10 v.toNat := toList_toString_nat v.toNat
    rw [htext]
    exact takeSome?_append Nat.toDigits_ne_nil
      (fun c hc => text_isDigit (isDigit_of_mem_toDigits hc))
      fun c more h => by simpa [stops] using hrest c more h
  | name =>
    obtain ⟨c, more, htext, hc, hmore⟩ := hv
    have hspan := span_append hmore fun d others h => by simpa [stops] using hrest d others h
    rw [written, htext]
    rw [List.cons_append, Slot.take?, Slot.takeName?, if_pos hc, hspan]
  | quoted => exact takeQuoted?_quote v rest
  | value =>
    have hquote := takeQuoted?_quote v rest
    have htext : (quote v).toList = '"' :: (escaped v.toList ++ ['"']) := by simp [quote]
    rw [written]
    rw [htext, List.cons_append] at hquote ⊢
    rw [Slot.take?, hquote]
  | token =>
    exact takeSome?_append hv.1 (fun c hc => by simp [hv.2 c hc])
      fun c more h => by simpa [stops] using hrest c more h
  | formula =>
    obtain ⟨hne, -, hline⟩ := hv
    cases rest with
    | nil => simp [Slot.take?, written, hne, hline]
    | cons c more => cases hrest c more rfl
  | integers =>
    rw [written, Slot.take?, span_append]
    · intro c hc
      obtain rfl | rfl | hdigit := mem_listed hc
      · rfl
      · rfl
      · simpa using fun h : c = ']' => by subst h; cases hdigit
    · intro c more h
      simpa [stops] using hrest c more h
  | comparison => exact take?_comparison v hrest
  | sign =>
    cases v <;>
      simp [Slot.take?, Slot.meanings, Slot.takeWord?, Slot.dropFront?, written, Sign.symbol]
  | sortMethod =>
    cases v <;>
      simp [Slot.take?, Slot.meanings, Slot.takeWord?, Slot.dropFront?, written, SortMethod.name]
  | direction =>
    cases v <;>
      simp [Slot.take?, Slot.meanings, Slot.takeWord?, Slot.dropFront?, written, Direction.name]
  | resource =>
    simp only [InRange, List.mem_cons, List.not_mem_nil, or_false] at hv
    obtain rfl | rfl | rfl | rfl := hv <;>
      simp [Slot.take?, Slot.meanings, Slot.takeWord?, Slot.dropFront?, written]
  | switch => cases v <;> simp [Slot.take?, Slot.meanings, Slot.takeWord?, Slot.dropFront?, written]

lemma solid_numberText {text : List Char} (h : NumberText text) : Solid text := by
  have hpoint : isBlank '.' = false := by decide
  obtain ⟨size, hsize, htext⟩ := h
  have hplain : size ≠ [] ∧ ∀ c ∈ size, isBlank c = false := by
    cases hsize with
    | whole digits hne h => exact ⟨hne, fun c hc => (visible_of_isDigit (h c hc)).not_blank⟩
    | point digits fraction hne h hfne hf =>
      refine ⟨by simp, fun c hc => ?_⟩
      rw [List.mem_append, List.mem_cons] at hc
      obtain hc | rfl | hc := hc
      · exact (visible_of_isDigit (h c hc)).not_blank
      · exact hpoint
      · exact (visible_of_isDigit (hf c hc)).not_blank
  obtain rfl | rfl := htext
  · exact .of_forall hplain.1 hplain.2
  · apply Solid.of_forall (by simp)
    intro c hc
    obtain rfl | hc := List.mem_cons.mp hc
    · decide
    · exact hplain.2 c hc

lemma decimal_display {x : Float} (h : IsDecimal x) : Literal.decimal (Decimal.display x) = .ok x := by
  obtain ⟨hfinite, hread⟩ := h
  have htrim : trimmed (Decimal.display x) = Decimal.display x :=
    trimmed_of_solid (solid_numberText (numberText_display hfinite hread))
  unfold Literal.decimal
  simp only [htrim, hread]
  exact if_pos hfinite

lemma readFrames_toString {n : UInt32} (h : IsFrames n) : Slot.readFrames (toString n) = .ok n := by
  have hlimit : n.toNat ≤ Word.greatestSigned := by
    simp only [IsFrames, Word.greatestSigned] at h ⊢
    omega
  have hamount := amount_of_digits (toList_toString_nat n.toNat) hlimit
  have hsize : (UInt64.ofNat n.toNat).toNat = n.toNat := by
    apply UInt64.toNat_ofNat_of_lt'
    simp only [Word.greatestSigned, UInt64.size] at hlimit ⊢
    omega
  have hrange : 1 ≤ UInt64.ofNat n.toNat ∧ UInt64.ofNat n.toNat ≤ Slot.maxFrames := by
    simp only [UInt64.le_iff_toNat_le, hsize]
    exact h
  have hback : (UInt64.ofNat n.toNat).toUInt32 = n := by
    rw [← UInt32.toNat_inj, UInt64.toNat_toUInt32, hsize]
    exact Nat.mod_eq_of_lt n.toNat_lt
  change (Literal.amount (toString n.toNat) >>= fun m => _) = _
  rw [hamount]
  change (if 1 ≤ UInt64.ofNat n.toNat ∧ UInt64.ofNat n.toNat ≤ Slot.maxFrames then
    Except.ok (UInt64.ofNat n.toNat).toUInt32 else _) = _
  rw [if_pos hrange, hback]

lemma read_written (s : Slot) (v : s.Value) (hv : InRange s v) : s.read (written s v) = .ok v := by
  cases s with
  | integer => exact integer_toString v
  | number =>
    change Literal.decimal (Decimal.display v) = .ok v
    exact decimal_display (x := v) hv
  | amount =>
    have hamount := amount_of_digits (toList_toString_nat v.toNat) hv
    rwa [UInt64.ofNat_toNat] at hamount
  | frames => exact readFrames_toString hv
  | name => rfl
  | quoted => exact quoted_quote v
  | value => exact value_quote v
  | token => rfl
  | formula =>
    have htrim : trimmed v = v := trimmed_of_solid (solid_of_trim hv.1 hv.2.1 hv.2.2)
    change Except.ok (trimmed v) = Except.ok v
    rw [htrim]
  | integers => exact integers_listed hv
  | sign => cases v <;> rfl
  | comparison => cases v <;> rfl
  | sortMethod => cases v <;> rfl
  | direction => cases v <;> rfl
  | resource =>
    simp only [InRange, List.mem_cons, List.not_mem_nil, or_false] at hv
    obtain rfl | rfl | rfl | rfl := hv <;> rfl
  | switch => cases v <;> rfl

lemma solid_name {text : String} (h : IsName text) : Solid text.toList := by
  obtain ⟨c, more, htext, hc, hmore⟩ := h
  have hcontinues : continuesName c = true := by simp [continuesName, hc]
  rw [htext]
  apply Solid.of_forall (by simp)
  intro d hd
  obtain rfl | hd := List.mem_cons.mp hd
  · exact (visible_of_continuesName hcontinues).not_blank
  · exact (visible_of_continuesName (hmore d hd)).not_blank

lemma solid_digits (n : Nat) : Solid (Nat.toDigits 10 n) :=
  .of_forall Nat.toDigits_ne_nil fun _ hc => (visible_of_isDigit (isDigit_of_mem_toDigits hc)).not_blank

lemma solid_written (s : Slot) (v : s.Value) (hv : InRange s v) : Solid (written s v).toList := by
  cases s with
  | integer =>
    rw [written, toList_toString_int64]
    exact solid_signedDigits _
  | number => exact solid_numberText (numberText_display hv.1 hv.2)
  | amount =>
    have htext : (written .amount v).toList = Nat.toDigits 10 v.toNat := toList_toString_nat v.toNat
    rw [htext]
    exact solid_digits _
  | frames =>
    have htext : (written .frames v).toList = Nat.toDigits 10 v.toNat := toList_toString_nat v.toNat
    rw [htext]
    exact solid_digits _
  | name => exact solid_name hv
  | quoted => exact solid_quote v
  | value => exact solid_quote v
  | token => exact .of_forall hv.1 hv.2
  | formula => exact solid_of_trim hv.1 hv.2.1 hv.2.2
  | integers => exact solid_listed hv
  | sign => cases v <;> exact .of_all (by simp [written, Sign.symbol]) (by decide)
  | comparison => cases v <;> exact .of_all (by simp [written, Comparison.symbol]) (by decide)
  | sortMethod => cases v <;> exact .of_all (by simp [written, SortMethod.name]) (by decide)
  | direction => cases v <;> exact .of_all (by simp [written, Direction.name]) (by decide)
  | resource =>
    simp only [InRange, List.mem_cons, List.not_mem_nil, or_false] at hv
    obtain rfl | rfl | rfl | rfl := hv <;> exact .of_all (by simp [written]) (by decide)
  | switch => cases v <;> exact .of_all (by simp [written]) (by decide)

/-- The characters that the texts of a slot can begin with, if there are only a few. -/
def initials : Slot → Option (List Char)
  | .integer | .number => some "-0123456789".toList
  | .integers => some "-,0123456789".toList
  | .amount | .frames => some "0123456789".toList
  | .name => some "ABCDEFGHIJKLMNOPQRSTUVWXYZabcdefghijklmnopqrstuvwxyz_".toList
  | .quoted | .value => some ['"']
  | .sign => some ['+', '-']
  | .comparison => some ['<', '=', '>', '!']
  | .sortMethod => some ['b', 's']
  | .direction => some ['u', 'd', 'l', 'r']
  | .resource => some ['w', 's', 'f', 'm']
  | .switch => some ['o']
  | .token | .formula => none

/-- Whether all texts of a slot begin with a character of a kind. -/
def begins (s : Slot) (fits : Char → Bool) : Bool :=
  match initials s with
  | some cs => cs.all fits
  | none => false

lemma mem_digits {c : Char} (h : c.isDigit = true) : c ∈ "0123456789".toList := by
  rw [isDigit_iff] at h
  have hall : ∀ n < 58, 48 ≤ n → Char.ofNat n ∈ "0123456789".toList := by decide
  have hc := hall c.toNat (by omega) h.1
  rwa [Char.ofNat_toNat] at hc

lemma mem_letters {c : Char} (h : startsName c = true) :
    c ∈ "ABCDEFGHIJKLMNOPQRSTUVWXYZabcdefghijklmnopqrstuvwxyz_".toList := by
  have hall : ∀ n < 127, startsName (Char.ofNat n) = true →
      Char.ofNat n ∈ "ABCDEFGHIJKLMNOPQRSTUVWXYZabcdefghijklmnopqrstuvwxyz_".toList := by
    decide
  have hvisible : Visible c := visible_of_continuesName (by simp [continuesName, h])
  have hc := hall c.toNat (by have := hvisible.2; omega)
  rw [Char.ofNat_toNat] at hc
  exact hc h

lemma unsigned_first {text : List Char} (h : Unsigned text) {c : Char} {more : List Char}
    (htext : text = c :: more) : c.isDigit = true := by
  cases h with
  | whole digits hne h => exact h c (by simp [htext])
  | point digits fraction hne h hfne hf =>
    obtain ⟨d, others, rfl⟩ := List.exists_cons_of_ne_nil hne
    cases htext
    exact h c List.mem_cons_self

lemma numberText_first {text : List Char} (h : NumberText text) {c : Char} {more : List Char}
    (htext : text = c :: more) : c = '-' ∨ c.isDigit = true := by
  obtain ⟨size, hsize, rfl | rfl⟩ := h
  · exact .inr (unsigned_first hsize htext)
  · cases htext
    exact .inl rfl

lemma mem_initials {s : Slot} {v : s.Value} (hv : InRange s v) {c : Char} {more cs : List Char}
    (htext : (written s v).toList = c :: more) (hcs : initials s = some cs) : c ∈ cs := by
  have hmem : c ∈ (written s v).toList := by simp [htext]
  cases s with
  | integer =>
    cases hcs
    rw [written, toList_toString_int64] at hmem
    obtain rfl | hdigit := mem_signedDigits hmem
    · exact List.mem_cons_self
    · exact List.mem_cons_of_mem _ (mem_digits hdigit)
  | number =>
    cases hcs
    obtain rfl | hdigit := numberText_first (numberText_display hv.1 hv.2) htext
    · exact List.mem_cons_self
    · exact List.mem_cons_of_mem _ (mem_digits hdigit)
  | amount =>
    cases hcs
    have hdigits : (written .amount v).toList = Nat.toDigits 10 v.toNat := toList_toString_nat v.toNat
    rw [hdigits] at hmem
    exact mem_digits (isDigit_of_mem_toDigits hmem)
  | frames =>
    cases hcs
    have hdigits : (written .frames v).toList = Nat.toDigits 10 v.toNat := toList_toString_nat v.toNat
    rw [hdigits] at hmem
    exact mem_digits (isDigit_of_mem_toDigits hmem)
  | name =>
    cases hcs
    obtain ⟨d, others, hname, hd, -⟩ := hv
    obtain ⟨rfl, -⟩ := List.cons.inj (htext.symm.trans hname)
    exact mem_letters hd
  | quoted =>
    cases hcs
    rw [written, quote, String.toList_ofList] at htext
    cases htext
    exact List.mem_cons_self
  | value =>
    cases hcs
    rw [written, quote, String.toList_ofList] at htext
    cases htext
    exact List.mem_cons_self
  | token => cases hcs
  | formula => cases hcs
  | integers =>
    cases hcs
    obtain rfl | rfl | hdigit := mem_listed hmem
    · exact List.mem_cons_of_mem _ List.mem_cons_self
    · exact List.mem_cons_self
    · exact List.mem_cons_of_mem _ (List.mem_cons_of_mem _ (mem_digits hdigit))
  | sign => cases hcs; cases v <;> cases htext <;> decide
  | comparison => cases hcs; cases v <;> cases htext <;> decide
  | sortMethod => cases hcs; cases v <;> cases htext <;> decide
  | direction => cases hcs; cases v <;> cases htext <;> decide
  | resource =>
    cases hcs
    simp only [InRange, List.mem_cons, List.not_mem_nil, or_false] at hv
    obtain rfl | rfl | rfl | rfl := hv <;> cases htext <;> decide
  | switch => cases hcs; cases v <;> cases htext <;> decide

lemma begins_written {s : Slot} {v : s.Value} (hv : InRange s v) {fits : Char → Bool}
    (h : begins s fits = true) {c : Char} {more : List Char}
    (htext : (written s v).toList = c :: more) : fits c = true := by
  unfold begins at h
  split at h
  · next cs hcs => exact List.all_eq_true.mp h c (mem_initials hv htext hcs)
  · cases h

end Microworlds.Proofs

import Microworlds.Proofs.Decimal.Infinite
import Microworlds.Proofs.Statement.Disjoint
import Microworlds.Proofs.Statement.Integers

/-!
# What can go wrong with a line of the right shape

A line that has the shape of a form has a text in each slot of the form, and whether this text has a value
is a matter of the slot alone: names, quoted texts, values, formulas and the words of a small vocabulary
always have one. A number has none if one of its digits is not `0` to `9` or if it is out of range, and a
list has none if it is blank or if something between its commas is no whole number in range.
-/

namespace Microworlds.Proofs

open Text

/-! ### The texts in the slots of a line -/

/-- The slot that a piece is, if it is one. -/
def slotOf? : Piece → Option Slot
  | .slot s => some s
  | _ => none

/-- The texts that a line has in the slots of some pieces, if it has the shape of the pieces. -/
def captures? : List Piece → List Char → Option (List (Slot × String))
  | [], cs => if cs.isEmpty then some [] else none
  | .slot s :: more, cs =>
    match s.take? cs with
    | none => none
    | some (text, rest) => (captures? more rest).map ((s, String.ofList text) :: ·)
  | piece :: more, cs =>
    match rest? piece cs with
    | none => none
    | some rest => captures? more rest

/-- The error that a check ends with, if it fails. -/
def errorOf {ε α : Type} : Except ε α → Option ε
  | .ok _ => none
  | .error e => some e

/-- The error in a text, if it has no value in its slot. -/
def failure? (captured : Slot × String) : Option LiteralError :=
  errorOf (captured.1.read captured.2)

/-- Whether the text of a slot has no value: one of its digits has none, or its number is out of range, or it
is a list without numbers or with something else than numbers in range. -/
def Unreadable : Slot → String → Prop
  | .integer, text | .amount, text =>
    (∃ c ∈ text.toList, IsForeign c) ∨ ∃ n, whole? text.toList = some n ∧ ¬ FitsInt64 n
  | .frames, text =>
    (∃ c ∈ text.toList, IsForeign c) ∨ ∃ n, whole? text.toList = some n ∧ ¬ (1 ≤ n ∧ n ≤ 10000)
  | .number, text =>
    (∃ c ∈ text.toList, IsForeign c) ∨ ∃ x, Decimal.read? text = some x ∧ x.isInf = true
  | .integers, text =>
    trim text.toList = [] ∨
      ∃ piece ∈ pieces ',' text.toList, ¬ ∃ n, whole? (trim piece) = some n ∧ FitsInt64 n
  | .name, _ | .quoted, _ | .value, _ | .token, _ | .formula, _ | .sign, _ | .comparison, _
  | .sortMethod, _ | .direction, _ | .resource, _ | .switch, _ => False

/-! ### What a slot takes -/

lemma of_takeSome? {fits : Char → Bool} {cs text rest : List Char}
    (h : Slot.takeSome? fits cs = some (text, rest)) : text ≠ [] ∧ ∀ c ∈ text, fits c = true := by
  rw [Slot.takeSome?, List.span_eq_takeWhile_dropWhile] at h
  split at h
  · cases h
  · next hne =>
    obtain ⟨rfl, rfl⟩ := Prod.mk.inj (Option.some.inj h)
    exact ⟨fun hempty => hne _ (by rw [hempty]), fun c hc => List.mem_takeWhile_imp hc⟩

/-- Digits of any script. -/
structure IsDigits (digits : List Char) : Prop where
  nonempty : digits ≠ []
  fits : ∀ c ∈ digits, Text.isDigit c = true

/-- Digits of any script, behind a minus or without one. -/
def IsInteger (text : List Char) : Prop :=
  ∃ digits, IsDigits digits ∧ (text = digits ∨ text = '-' :: digits)

lemma of_takeInteger? {cs text rest : List Char} (h : Slot.takeInteger? cs = some (text, rest)) :
    IsInteger text := by
  unfold Slot.takeInteger? at h
  split at h
  · obtain ⟨⟨digits, behind⟩, htake, heq⟩ := Option.map_eq_some_iff.1 h
    cases heq
    obtain ⟨hne, hfits⟩ := of_takeSome? htake
    exact ⟨digits, ⟨hne, hfits⟩, .inr rfl⟩
  · obtain ⟨hne, hfits⟩ := of_takeSome? h
    exact ⟨text, ⟨hne, hfits⟩, .inl rfl⟩

/-- Digits of any script with a point or without one, behind a minus or without one. -/
def IsNumber (text : List Char) : Prop :=
  ∃ size, AnyNumeral size ∧ (text = size ∨ text = '-' :: size)

lemma of_takeNumber? {cs text rest : List Char} (h : Slot.takeNumber? cs = some (text, rest)) :
    IsNumber text := by
  obtain ⟨⟨whole, behind⟩, hwhole, h⟩ := Option.bind_eq_some_iff.1 h
  obtain ⟨digits, hdigits, hsign⟩ := of_takeInteger? hwhole
  have hplain : AnyNumeral digits := .whole hdigits.nonempty hdigits.fits
  dsimp only at h
  split at h
  · split at h
    · next fraction rest htake =>
      cases h
      have hpoint : AnyNumeral (digits ++ '.' :: fraction) :=
        .pointed hdigits.nonempty hdigits.fits (of_takeSome? htake).2
      exact ⟨_, hpoint, hsign.imp (by rintro rfl; rfl) (by rintro rfl; rfl)⟩
    · cases h
      exact ⟨digits, hplain, hsign⟩
  · cases h
    exact ⟨digits, hplain, hsign⟩

lemma mem_of_takeWord? {words : List String} {cs text rest : List Char}
    (h : Slot.takeWord? words cs = some (text, rest)) : String.ofList text ∈ words := by
  induction words with
  | nil => cases h
  | cons word more ih =>
    rw [Slot.takeWord?] at h
    split at h
    · cases h
      rw [String.ofList_toList]
      exact List.mem_cons_self
    · exact List.mem_cons_of_mem word (ih h)

/-! ### Numbers in digits of any script -/

lemma IsDigits.natural?_eq_none {digits : List Char} (h : IsDigits digits) :
    natural? digits = none ↔ ∃ c ∈ digits, IsForeign c := by
  rw [Proofs.natural?_eq_none h.nonempty]
  exact exists_congr fun c => and_congr_right fun hc => ⟨fun hother => ⟨h.fits c hc, hother⟩, And.right⟩

lemma IsDigits.whole? {digits : List Char} (h : IsDigits digits) :
    whole? digits = (natural? digits).map Int.ofNat := by
  unfold Proofs.whole?
  split
  · next more => exact absurd (h.fits '-' List.mem_cons_self) (by decide)
  · next more => exact absurd (h.fits '+' List.mem_cons_self) (by decide)
  · rfl

lemma IsInteger.trim {text : List Char} (h : IsInteger text) : trim text = text := by
  obtain ⟨digits, hdigits, htext⟩ := h
  have hdark : ∀ c ∈ digits, isBlank c = false := fun c hc => dark_of_digit (hdigits.fits c hc)
  obtain rfl | rfl := htext
  · exact trim_of_solid (.of_forall hdigits.nonempty hdark)
  · exact trim_of_solid (.of_forall (by simp) (List.forall_mem_cons.2 ⟨by decide, hdark⟩))

/-- Digits of another script are the only ones that stand for no number. -/
lemma IsInteger.whole?_eq_none {text : List Char} (h : IsInteger text) :
    whole? text = none ↔ ∃ c ∈ text, IsForeign c := by
  obtain ⟨digits, hdigits, rfl | rfl⟩ := h
  · rw [hdigits.whole?, Option.map_eq_none_iff, hdigits.natural?_eq_none]
  · have hminus : ¬ IsForeign '-' := fun h => absurd h.1 (by decide)
    rw [whole?, Option.map_eq_none_iff, hdigits.natural?_eq_none]
    simp [hminus]

lemma IsInteger.inRange_iff {text : List Char} (h : IsInteger text) {range : Int → Prop} :
    (∃ n, whole? text = some n ∧ range n) ↔
      ¬ ((∃ c ∈ text, IsForeign c) ∨ ∃ n, whole? text = some n ∧ ¬ range n) := by
  rw [← h.whole?_eq_none]
  cases whole? text <;> simp

lemma read_integer {text : List Char} (h : IsInteger text) :
    (∃ v, Literal.integer (String.ofList text) = .ok v) ↔ ¬ Unreadable .integer (String.ofList text) := by
  rw [integer_isOk, Unreadable, String.toList_ofList, h.trim, h.inRange_iff]

lemma read_amount {digits : List Char} (h : IsDigits digits) :
    (∃ v, Literal.amount (String.ofList digits) = .ok v) ↔
      ¬ Unreadable .amount (String.ofList digits) := by
  have hinteger : IsInteger digits := ⟨digits, h, .inl rfl⟩
  have hrange : (∃ n, whole? digits = some n ∧ 0 ≤ n ∧ n ≤ 9223372036854775807) ↔
      ∃ n, whole? digits = some n ∧ FitsInt64 n := by
    refine exists_congr fun n => and_congr_right fun hn => ⟨fun hfits => ?_, fun hfits => ?_⟩
    · exact ⟨by omega, hfits.2⟩
    · rw [h.whole?, Option.map_eq_some_iff] at hn
      obtain ⟨m, -, rfl⟩ := hn
      exact ⟨Int.natCast_nonneg m, hfits.2⟩
  rw [amount_isOk, Unreadable, String.toList_ofList, hinteger.trim, hrange, hinteger.inRange_iff]

lemma read_frames {digits : List Char} (h : IsDigits digits) :
    (∃ v, Slot.readFrames (String.ofList digits) = .ok v) ↔
      ¬ Unreadable .frames (String.ofList digits) := by
  have hinteger : IsInteger digits := ⟨digits, h, .inl rfl⟩
  rw [readFrames_isOk, Unreadable, String.toList_ofList, hinteger.trim, hinteger.inRange_iff]

/-! ### Decimals -/

lemma AnyNumeral.dark {size : List Char} (h : AnyNumeral size) : ∀ c ∈ size, isBlank c = false := by
  cases h with
  | whole hne hdigits => exact fun c hc => dark_of_digit (hdigits c hc)
  | pointed hne hdigits hfraction =>
    refine List.forall_mem_append.2 ⟨fun c hc => dark_of_digit (hdigits c hc), ?_⟩
    exact List.forall_mem_cons.2 ⟨by decide, fun c hc => dark_of_digit (hfraction c hc)⟩

lemma AnyNumeral.exists_cons {size : List Char} (h : AnyNumeral size) :
    ∃ c rest, size = c :: rest ∧ Text.isDigit c = true := by
  cases h with
  | whole hne hdigits =>
    obtain ⟨c, rest, rfl⟩ := List.exists_cons_of_ne_nil hne
    exact ⟨c, rest, rfl, hdigits c List.mem_cons_self⟩
  | pointed hne hdigits hfraction =>
    obtain ⟨c, rest, rfl⟩ := List.exists_cons_of_ne_nil hne
    exact ⟨c, _, rfl, hdigits c List.mem_cons_self⟩

lemma IsNumber.solid {text : List Char} (h : IsNumber text) : Solid text := by
  obtain ⟨size, hsize, htext⟩ := h
  obtain ⟨c, rest, hcons, -⟩ := hsize.exists_cons
  obtain rfl | rfl := htext
  · exact .of_forall (by simp [hcons]) hsize.dark
  · exact .of_forall (by simp) (List.forall_mem_cons.2 ⟨by decide, hsize.dark⟩)

lemma AnyNumeral.unsigned? {size : List Char} (h : AnyNumeral size) (hown : ∀ c ∈ size, ¬ IsForeign c) :
    ∃ x, Decimal.unsigned? size = some x ∧ IsNumeric x :=
  ⟨_, unsigned?_of_parts (h.parts hown), isNumeric_nearest _ _⟩

lemma IsNumber.read? {text : List Char} (h : IsNumber text) :
    ((∃ c ∈ text, IsForeign c) ∧ Decimal.read? (String.ofList text) = none) ∨
      (¬ (∃ c ∈ text, IsForeign c) ∧
        ∃ x, Decimal.read? (String.ofList text) = some x ∧ IsNumeric x) := by
  have hminus : ¬ IsForeign '-' := fun h => absurd h.1 (by decide)
  obtain ⟨size, hsize, htext⟩ := h
  obtain ⟨c, rest, hcons, hdigit⟩ := hsize.exists_cons
  have hletter : c.isAlpha = false := isAlpha_of_digit hdigit
  have hplus : c ≠ '+' := by rintro rfl; cases hdigit
  have hsign : c ≠ '-' := by rintro rfl; cases hdigit
  by_cases hforeign : ∃ c ∈ size, IsForeign c
  · left
    have hnone := hsize.unsigned?_foreign hforeign
    obtain rfl | rfl := htext
    · refine ⟨hforeign, ?_⟩
      rw [hcons] at hnone ⊢
      rw [read?_plain hletter hplus hsign, hnone]
    · obtain ⟨d, hd, hother⟩ := hforeign
      refine ⟨⟨d, List.mem_cons_of_mem _ hd, hother⟩, ?_⟩
      rw [hcons] at hnone ⊢
      rw [read?_minus hletter, hnone]
      rfl
  · right
    obtain ⟨x, hx, hnumeric⟩ := hsize.unsigned? fun c hc hother => hforeign ⟨c, hc, hother⟩
    obtain rfl | rfl := htext
    · refine ⟨hforeign, x, ?_, hnumeric⟩
      rw [hcons] at hx ⊢
      rw [read?_plain hletter hplus hsign, hx]
    · refine ⟨?_, -x, ?_, hnumeric.neg⟩
      · simpa [hminus] using hforeign
      · rw [hcons] at hx ⊢
        rw [read?_minus hletter, hx]
        rfl

lemma decimal_isOk {raw : String} :
    (∃ x, Literal.decimal raw = .ok x) ↔
      ∃ x, Decimal.read? (trimmed raw) = some x ∧ x.isFinite = true := by
  unfold Literal.decimal
  dsimp only
  cases Decimal.read? (trimmed raw) with
  | none => simp
  | some x => by_cases hx : x.isFinite = true <;> simp [hx]

lemma read_number {text : List Char} (h : IsNumber text) :
    (∃ x, Literal.decimal (String.ofList text) = .ok x) ↔ ¬ Unreadable .number (String.ofList text) := by
  have htrim : trimmed (String.ofList text) = String.ofList text :=
    trimmed_of_solid (by rw [String.toList_ofList]; exact h.solid)
  rw [decimal_isOk, Unreadable, String.toList_ofList, htrim]
  obtain ⟨hforeign, hread⟩ | ⟨hown, x, hread, hnumeric⟩ := h.read?
  · simp [hforeign, hread]
  · simp [hown, hread, hnumeric.isInf_iff]

/-! ### Texts and words -/

lemma value_bare {text : List Char} (hne : text ≠ []) (h : ∀ c ∈ text, Slot.isBare c = true) :
    Literal.value (String.ofList text) = .ok (String.ofList text) := by
  have hdark : ∀ c ∈ text, isBlank c = false := fun c hc => by
    have hbare := h c hc
    simp only [Slot.isBare, Bool.not_eq_true', Bool.or_eq_false_iff] at hbare
    tauto
  obtain ⟨c, rest, rfl⟩ := List.exists_cons_of_ne_nil hne
  have hquote : ¬ (c = '"' ∨ c = '\'') := by
    rintro (rfl | rfl) <;> cases h _ List.mem_cons_self
  rw [Literal.value, String.toList_ofList, trim_of_solid (.of_forall hne hdark)]
  exact if_neg hquote

lemma read_quoted {cs text rest : List Char} (h : Slot.takeQuoted? cs = some (text, rest)) :
    (∃ v, Literal.quoted (String.ofList text) = .ok v) ∧
      ∃ v, Literal.value (String.ofList text) = .ok v := by
  obtain ⟨mark, body, meaning, htext, hspells⟩ := enclosed_of_takeQuoted? h
  have hraw : (String.ofList text).toList = mark.enclosed body := by rw [String.toList_ofList, htext]
  exact ⟨⟨_, quoted_enclosed hraw hspells⟩, _, value_enclosed hraw hspells⟩

lemma read_value {cs text rest : List Char} (h : Slot.value.take? cs = some (text, rest)) :
    ∃ v, Literal.value (String.ofList text) = .ok v := by
  unfold Slot.take? at h
  dsimp only at h
  split at h
  · exact (read_quoted h).2
  · exact (read_quoted h).2
  · obtain ⟨hne, hbare⟩ := of_takeSome? h
    exact ⟨_, value_bare hne hbare⟩

lemma read_word {s : Slot} {cs text rest : List Char}
    (h : Slot.takeWord? (s.meanings.map (·.1)) cs = some (text, rest)) :
    ∃ v, Slot.readWord s (String.ofList text) = .ok v := by
  obtain ⟨word, hword, heq⟩ := List.mem_map.1 (mem_of_takeWord? h)
  have hfound : (s.meanings.find? (·.1 == String.ofList text)).isSome = true :=
    List.find?_isSome.2 ⟨word, hword, by rw [heq, beq_self_eq_true]⟩
  obtain ⟨found, hfind⟩ := Option.isSome_iff_exists.1 hfound
  exact ⟨found.2, by rw [Slot.readWord, hfind]⟩

/-! ### One slot -/

lemma read_taken {s : Slot} {cs text rest : List Char} (h : s.take? cs = some (text, rest)) :
    (∃ v, s.read (String.ofList text) = .ok v) ↔ ¬ Unreadable s (String.ofList text) := by
  cases s with
  | integer => exact read_integer (of_takeInteger? h)
  | number =>
    change (∃ x, Literal.decimal (String.ofList text) = .ok x) ↔ _
    exact read_number (of_takeNumber? h)
  | amount => exact read_amount ⟨(of_takeSome? h).1, (of_takeSome? h).2⟩
  | frames => exact read_frames ⟨(of_takeSome? h).1, (of_takeSome? h).2⟩
  | integers =>
    change (∃ v, Literal.integers (String.ofList text) = .ok v) ↔ _
    rw [integers_isOk, Unreadable]
    push Not
    rfl
  | name | token | formula => exact ⟨fun _ => not_false, fun _ => ⟨_, rfl⟩⟩
  | quoted => exact ⟨fun _ => not_false, fun _ => (read_quoted h).1⟩
  | value => exact ⟨fun _ => not_false, fun _ => read_value h⟩
  | sign | comparison | sortMethod | direction | resource | switch =>
    exact ⟨fun _ => not_false, fun _ => read_word h⟩

lemma aboutNumbers_taken {s : Slot} {cs text rest : List Char} (h : s.take? cs = some (text, rest))
    {e : LiteralError} (herror : s.read (String.ofList text) = .error e) : AboutNumbers e := by
  by_cases hvalue : ∃ v, s.read (String.ofList text) = .ok v
  · obtain ⟨v, hv⟩ := hvalue
    rw [hv] at herror
    cases herror
  · have hunreadable := not_not.1 fun hno => hvalue ((read_taken h).2 hno)
    cases s with
    | integer => exact aboutNumbers_integer herror
    | number =>
      change Literal.decimal (String.ofList text) = .error e at herror
      exact aboutNumbers_decimal herror
    | amount => exact aboutNumbers_amount herror
    | frames => exact aboutNumbers_readFrames herror
    | integers => exact aboutNumbers_integers herror
    | _ => exact hunreadable.elim

/-! ### All slots of a line -/

lemma errorOf_eq_some {ε α : Type} {c : Except ε α} {e : ε} : errorOf c = some e ↔ c = .error e := by
  cases c with
  | ok v => exact ⟨nofun, nofun⟩
  | error other => simp [errorOf]

lemma slots_of_captures? {pieces : List Piece} {cs : List Char} {captured : List (Slot × String)}
    (h : captures? pieces cs = some captured) : captured.map Prod.fst = pieces.filterMap slotOf? := by
  fun_induction captures? pieces cs generalizing captured with
  | case1 cs => cases h; rfl
  | case2 cs => cases h
  | case3 s more cs => cases h
  | case4 s more cs text rest htake ih =>
    obtain ⟨others, hothers, rfl⟩ := Option.map_eq_some_iff.1 h
    exact congrArg (s :: ·) (ih hothers)
  | case5 => cases h
  | case6 piece more cs hpiece rest hrest ih =>
    have hnone : slotOf? piece = none := by
      cases piece with
      | slot s => exact (hpiece s rfl).elim
      | _ => rfl
    rw [List.filterMap_cons_none hnone, ih h]

lemma taken_of_captures? {pieces : List Piece} {cs : List Char} {captured : List (Slot × String)}
    (h : captures? pieces cs = some captured) : ∀ c ∈ captured,
      ∃ part text rest, c.1.take? part = some (text, rest) ∧ c.2 = String.ofList text := by
  fun_induction captures? pieces cs generalizing captured with
  | case1 cs => cases h; exact nofun
  | case2 cs => cases h
  | case3 s more cs => cases h
  | case4 s more cs text rest htake ih =>
    obtain ⟨others, hothers, rfl⟩ := Option.map_eq_some_iff.1 h
    exact List.forall_mem_cons.2 ⟨⟨cs, text, rest, htake, rfl⟩, ih hothers⟩
  | case5 => cases h
  | case6 piece more cs hpiece rest hrest ih => exact ih h

lemma findSome?_failure?_cons (captured : Slot × String) (others : List (Slot × String)) :
    (captured :: others).findSome? failure? = (failure? captured).or (others.findSome? failure?) := by
  rw [List.findSome?_cons]
  cases failure? captured <;> rfl

/-- A line has the shape of some pieces if they capture something, and the first text without a value
decides. -/
lemma match?_captures (pieces : List Piece) (cs : List Char) :
    (Pieces.match? pieces cs).map errorOf = (captures? pieces cs).map (·.findSome? failure?) := by
  induction pieces generalizing cs with
  | nil =>
    rw [Pieces.match?, captures?]
    split <;> rfl
  | cons piece more ih =>
    cases piece with
    | text text =>
      rw [Pieces.match?, captures?, rest?]
      · cases Slot.dropFront? text.toList cs with
        | none => rfl
        | some rest => exact ih rest
      · intro s hs
        cases hs
    | gap => exact ih (trimStart cs)
    | space =>
      cases cs with
      | nil => rfl
      | cons c cs =>
        rw [Pieces.match?, captures?, rest?]
        · split
          · exact ih (trimStart cs)
          · rfl
        · intro s hs
          cases hs
    | slot s =>
      rw [Pieces.match?, captures?]
      cases s.take? cs with
      | none => rfl
      | some found =>
        obtain ⟨text, rest⟩ := found
        -- On both sides the error of this slot comes before those of the slots behind it.
        have hrest := congrArg (Option.map (failure? (s, String.ofList text)).or) (ih rest)
        rw [Option.map_map, Option.map_map] at hrest
        simp only [Option.map_map]
        refine Eq.trans (congrArg (Option.map · _) ?_) (hrest.trans (congrArg (Option.map · _) ?_))
        · funext values
          rw [Function.comp_apply, Function.comp_apply, failure?]
          cases s.read (String.ofList text) <;> cases values <;> rfl
        · exact funext fun others => (findSome?_failure?_cons _ others).symm

lemma read_captured {pieces : List Piece} {cs : List Char} {captured : List (Slot × String)}
    (h : captures? pieces cs = some captured) {c : Slot × String} (hc : c ∈ captured) :
    (∃ v, c.1.read c.2 = .ok v) ↔ ¬ Unreadable c.1 c.2 := by
  obtain ⟨part, text, rest, htake, htext⟩ := taken_of_captures? h c hc
  rw [htext]
  exact read_taken htake

/-! ### The lines of a scenario -/

lemma captured_of_badArgument {rules : List (Rule Command)} {line source : String} {cause : LiteralError}
    (h : classify rules line = .error (.badArgument source cause)) :
    ∃ rule ∈ rules, ∃ form ∈ rule.forms, ∃ captured,
      captures? form.pieces (trim line.toList) = some captured ∧
        ∃ c ∈ captured, c.1.read c.2 = .error cause := by
  rw [classify] at h
  split at h
  · cases h
  · next rule other hfirst =>
    cases h
    obtain ⟨rule', hrule, hmatch⟩ := List.exists_of_findSome?_eq_some hfirst
    obtain ⟨found, hfound, heq⟩ := Option.map_eq_some_iff.1 hmatch
    cases heq
    obtain ⟨form, hform, hshape⟩ := List.exists_of_findSome?_eq_some hfound
    obtain ⟨values, hvalues, hmeaning⟩ := Option.map_eq_some_iff.1 hshape
    have hcause : errorOf values = some cause := by
      cases values with
      | ok values => cases hmeaning
      | error e => cases hmeaning; rfl
    have hcaptures := match?_captures form.pieces (trim line.toList)
    rw [hvalues, Option.map_some, hcause] at hcaptures
    obtain ⟨captured, hcaptured, hfails⟩ := Option.map_eq_some_iff.1 hcaptures.symm
    obtain ⟨c, hc, hfailure⟩ := List.exists_of_findSome?_eq_some hfails
    exact ⟨rule, hrule, form, hform, captured, hcaptured, c, hc, errorOf_eq_some.1 hfailure⟩
  · cases h

/-- Only numbers and lists have no value. A line that has the shape of a form has a text in every slot
of the form. Such a text has a value unless it is a number with a digit that is not `0` to `9`, a whole
number that 64 bits do not hold, a decimal too large for a finite number, a count of frames that is not
from 1 to 10000, or a list that is blank or has something else than such whole numbers between its commas;
so names, quoted texts, bare values and the words for operators and directions always have one. The line
means something unless one of its texts has no value, and then the first of them is what is wrong with it.
When a line of a scenario has a bad argument, a number or a list is to blame: it is never said that a quoted
text is malformed or that something is missing. -/
theorem only_numbers_fail :
    (∀ (pieces : List Piece) (said : List Char) (captured : List (Slot × String)),
      captures? pieces said = some captured →
        captured.map Prod.fst = pieces.filterMap slotOf? ∧
        ∀ c ∈ captured, (∃ v, c.1.read c.2 = .ok v) ↔ ¬ Unreadable c.1 c.2) ∧
    (∀ (pieces : List Piece) (said : List Char),
      (Pieces.match? pieces said).map errorOf =
        (captures? pieces said).map (·.findSome? fun c => errorOf (c.1.read c.2))) ∧
    ∀ (scenario : Scenario) (line source : String) (cause : LiteralError),
      classify (rulesOf scenario) line = .error (.badArgument source cause) →
        AboutNumbers cause ∧
        ∃ rule ∈ rulesOf scenario, ∃ form ∈ rule.forms, ∃ captured,
          captures? form.pieces (trim line.toList) = some captured ∧
            ∃ c ∈ captured, Unreadable c.1 c.2 ∧ c.1.read c.2 = .error cause := by
  refine ⟨fun pieces said captured h => ⟨slots_of_captures? h, fun c hc => read_captured h hc⟩,
    match?_captures, ?_⟩
  intro scenario line source cause h
  obtain ⟨rule, hrule, form, hform, captured, hcaptured, c, hc, herror⟩ := captured_of_badArgument h
  obtain ⟨part, text, rest, htake, htext⟩ := taken_of_captures? hcaptured c hc
  have hnone : ¬ ∃ v, c.1.read c.2 = .ok v := by
    rintro ⟨v, hv⟩
    rw [hv] at herror
    cases herror
  have hunreadable : Unreadable c.1 c.2 := not_not.1 fun hno => hnone ((read_captured hcaptured hc).2 hno)
  refine ⟨?_, rule, hrule, form, hform, captured, hcaptured, c, hc, hunreadable, herror⟩
  rw [htext] at herror
  exact aboutNumbers_taken htake herror

/-- A digit of another script has the shape of a number, but no value. -/
theorem foreign_digit_refused :
    classify (rulesOf .algorithm) "array a = [1, ٢]" =
      .error (.badArgument "array a = [1, ٢]" (.notInteger "٢")) ∧
    AboutNumbers (.notInteger "٢") := by
  have hrefused : classify (rulesOf .algorithm) "array a = [1, ٢]" =
      .error (.badArgument "array a = [1, ٢]" (.notInteger "٢")) :=
    errorOf_eq_some.1 (by decide +kernel)
  exact ⟨hrefused, (only_numbers_fail.2.2 .algorithm _ _ _ hrefused).1⟩

end Microworlds.Proofs

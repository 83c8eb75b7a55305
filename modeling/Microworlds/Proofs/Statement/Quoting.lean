import Microworlds.Statement.Slot
import Microworlds.Proofs.Text

/-!
# Quoted texts

A quoted text begins and ends with the same quote. In between stand characters that are neither this
quote nor a backslash, and backslashes with the character behind them, which may be any but a line feed.
Every text can be written in this way, with either quote, and is read back; and whatever has this shape
is read, with one meaning.
-/

namespace Microworlds.Proofs

open Text Literal

/-- The two characters that a text may stand between. -/
inductive QuoteMark where
  | double
  | single
  deriving DecidableEq

namespace QuoteMark

def char : QuoteMark → Char
  | double => '"'
  | single => '\''

/-- The characters between two quotes. -/
def enclosed (mark : QuoteMark) (body : List Char) : List Char :=
  mark.char :: (body ++ [mark.char])

/-- How a character is written between two quotes. -/
def spelled (mark : QuoteMark) (c : Char) : List Char :=
  if c = '\\' then ['\\', '\\']
  else if c = mark.char then ['\\', mark.char]
  else if c = '\n' then ['\\', 'n']
  else if c = '\t' then ['\\', 't']
  else [c]

/-- The quoted text that stands for a text. -/
def literal (mark : QuoteMark) (text : String) : String :=
  String.ofList (mark.enclosed (text.toList.flatMap mark.spelled))

lemma toList_literal (mark : QuoteMark) (text : String) :
    (mark.literal text).toList = mark.enclosed (text.toList.flatMap mark.spelled) :=
  String.toList_ofList

lemma char_quote (mark : QuoteMark) : mark.char = '"' ∨ mark.char = '\'' := by
  cases mark
  · exact .inl rfl
  · exact .inr rfl

lemma exists_char {c : Char} (h : c = '"' ∨ c = '\'') : ∃ mark : QuoteMark, mark.char = c := by
  obtain rfl | rfl := h
  · exact ⟨.double, rfl⟩
  · exact ⟨.single, rfl⟩

lemma char_ne_slash (mark : QuoteMark) : mark.char ≠ '\\' := by
  cases mark <;> decide

lemma not_blank_char (mark : QuoteMark) : isBlank mark.char = false := by
  cases mark <;> decide

end QuoteMark

/-- The characters that mean another one behind a backslash, each with its meaning. -/
def quotedEscapes : List (Char × Char) :=
  [('n', '\n'), ('t', '\t'), ('\\', '\\'), ('"', '"'), ('\'', '\'')]

/-- What may stand between two quotes, and the text that it stands for. A backslash that is before
none of the characters of an escape is kept with the character behind it. -/
inductive SpellsQuoted (mark : QuoteMark) : List Char → List Char → Prop
  | nil : SpellsQuoted mark [] []
  | plain {c : Char} {body text : List Char} (hquote : c ≠ mark.char) (hslash : c ≠ '\\')
      (hmore : SpellsQuoted mark body text) : SpellsQuoted mark (c :: body) (c :: text)
  | escape {c meaning : Char} {body text : List Char} (hescape : (c, meaning) ∈ quotedEscapes)
      (hmore : SpellsQuoted mark body text) : SpellsQuoted mark ('\\' :: c :: body) (meaning :: text)
  | other {c : Char} {body text : List Char} (hline : c ≠ '\n')
      (hother : c ∉ quotedEscapes.map Prod.fst) (hmore : SpellsQuoted mark body text) :
      SpellsQuoted mark ('\\' :: c :: body) ('\\' :: c :: text)

variable {mark : QuoteMark} {body text found rest : List Char}

/-! ### The shape of a quoted text -/

lemma escape_ne_newline {c meaning : Char} (h : (c, meaning) ∈ quotedEscapes) : c ≠ '\n' := by
  have hall : ∀ pair ∈ quotedEscapes, pair.1 ≠ '\n' := by decide
  exact hall (c, meaning) h

lemma exists_spells_slash {c : Char} (hline : c ≠ '\n') (h : SpellsQuoted mark body text) :
    ∃ text, SpellsQuoted mark ('\\' :: c :: body) text := by
  by_cases hescape : c ∈ quotedEscapes.map Prod.fst
  · obtain ⟨⟨_, meaning⟩, hmem, rfl⟩ := List.mem_map.mp hescape
    exact ⟨_, .escape hmem h⟩
  · exact ⟨_, .other hline hescape h⟩

lemma takeQuotedRest?_spells (h : SpellsQuoted mark body text) (rest : List Char) :
    Slot.takeQuotedRest? mark.char (body ++ mark.char :: rest) =
      some (body ++ [mark.char], rest) := by
  have hslash : '\\' ≠ mark.char := mark.char_ne_slash.symm
  induction h with
  | nil => rw [List.nil_append, Slot.takeQuotedRest?.eq_def]; simp
  | plain hquote hplain _ ih =>
    rw [List.cons_append, Slot.takeQuotedRest?.eq_def]
    simp [hquote, hplain, ih]
  | escape hescape _ ih =>
    rw [List.cons_append, List.cons_append, Slot.takeQuotedRest?.eq_def]
    simp [hslash, escape_ne_newline hescape, ih]
  | other hline _ _ ih =>
    rw [List.cons_append, List.cons_append, Slot.takeQuotedRest?.eq_def]
    simp [hslash, hline, ih]

lemma spells_of_takeQuotedRest? {cs : List Char}
    (h : Slot.takeQuotedRest? mark.char cs = some (found, rest)) :
    ∃ body text, found = body ++ [mark.char] ∧ SpellsQuoted mark body text := by
  fun_induction Slot.takeQuotedRest? mark.char cs generalizing found with
  | case1 => cases h
  | case2 more =>
    cases h
    exact ⟨[], [], rfl, .nil⟩
  | case3 => cases h
  | case4 => cases h
  | case5 d more hline hquote ih =>
    obtain ⟨⟨others, _⟩, htake, hfound⟩ := Option.map_eq_some_iff.mp h
    cases hfound
    obtain ⟨body, text, rfl, hspells⟩ := ih htake
    obtain ⟨text, hspells⟩ := exists_spells_slash hline hspells
    exact ⟨_, text, rfl, hspells⟩
  | case6 c more hquote hslash ih =>
    obtain ⟨⟨others, _⟩, htake, hfound⟩ := Option.map_eq_some_iff.mp h
    cases hfound
    obtain ⟨body, text, rfl, hspells⟩ := ih htake
    exact ⟨c :: body, c :: text, rfl, .plain hquote hslash hspells⟩

lemma takeQuoted?_enclosed (h : SpellsQuoted mark body text) (rest : List Char) :
    Slot.takeQuoted? (mark.enclosed body ++ rest) = some (mark.enclosed body, rest) := by
  have htake := takeQuotedRest?_spells h rest
  simp [QuoteMark.enclosed, Slot.takeQuoted?, mark.char_quote, htake]

lemma enclosed_of_takeQuoted? {cs : List Char} (h : Slot.takeQuoted? cs = some (found, rest)) :
    ∃ mark body text, found = QuoteMark.enclosed mark body ∧ SpellsQuoted mark body text := by
  unfold Slot.takeQuoted? at h
  split at h
  · cases h
  · split at h
    · next c more hc =>
      obtain ⟨mark, rfl⟩ := QuoteMark.exists_char hc
      obtain ⟨⟨others, _⟩, htake, hfound⟩ := Option.map_eq_some_iff.mp h
      cases hfound
      obtain ⟨body, text, rfl, hspells⟩ := spells_of_takeQuotedRest? htake
      exact ⟨mark, body, text, rfl, hspells⟩
    · cases h

/-! ### What a quoted text stands for -/

lemma unescape_other {c : Char} (h : c ∉ quotedEscapes.map Prod.fst) (rest : List Char) :
    unescape ('\\' :: c :: rest) = (unescape rest).map fun text => '\\' :: c :: text := by
  simp only [quotedEscapes, List.map_cons, List.map_nil, List.mem_cons, List.not_mem_nil, or_false,
    not_or] at h
  rw [unescape.eq_def]
  simp [h]

lemma unescape_spells (h : SpellsQuoted mark body text) : unescape body = some text := by
  induction h with
  | nil => rfl
  | plain hquote hslash _ ih =>
    rw [unescape.eq_def]
    simp [hslash, ih]
  | escape hescape _ ih =>
    simp only [quotedEscapes, List.mem_cons, Prod.mk.injEq, List.not_mem_nil, or_false] at hescape
    obtain ⟨rfl, rfl⟩ | ⟨rfl, rfl⟩ | ⟨rfl, rfl⟩ | ⟨rfl, rfl⟩ | ⟨rfl, rfl⟩ := hescape <;>
      simp [unescape, ih]
  | other hline hother _ ih => rw [unescape_other hother, ih, Option.map_some]

lemma quotedBody?_enclosed (mark : QuoteMark) (body : List Char) :
    quotedBody? (mark.enclosed body) = some body := by
  simp [QuoteMark.enclosed, quotedBody?, mark.char_quote]

/-- The quotes are no white space, so trimming leaves a quoted text as it is. -/
lemma trim_enclosed (mark : QuoteMark) (body : List Char) :
    trim (mark.enclosed body) = mark.enclosed body := by
  have hlast : mark.enclosed body = (mark.char :: body) ++ [mark.char] := rfl
  exact trim_of_ends rfl mark.not_blank_char hlast mark.not_blank_char

lemma quoted_enclosed {raw : String} (hraw : raw.toList = mark.enclosed body)
    (h : SpellsQuoted mark body text) : Literal.quoted raw = .ok (String.ofList text) := by
  rw [Literal.quoted, hraw, trim_enclosed, quotedBody?_enclosed, Option.bind_some,
    unescape_spells h]

lemma value_enclosed {raw : String} (hraw : raw.toList = mark.enclosed body)
    (h : SpellsQuoted mark body text) : Literal.value raw = .ok (String.ofList text) := by
  have hquoted := quoted_enclosed hraw h
  rw [← String.ofList_toList (s := raw), hraw] at hquoted
  rw [Literal.value, hraw, trim_enclosed]
  simp only [QuoteMark.enclosed, mark.char_quote, if_true]
  exact hquoted

/-! ### How a text is written between quotes -/

lemma spells_spelled (mark : QuoteMark) (text : List Char) :
    SpellsQuoted mark (text.flatMap mark.spelled) text := by
  induction text with
  | nil => exact .nil
  | cons c more ih =>
    rw [List.flatMap_cons, QuoteMark.spelled]
    split_ifs with hslash hquote hline htab
    · subst hslash
      exact .escape (by decide) ih
    · subst hquote
      exact .escape (by cases mark <;> decide) ih
    · subst hline
      exact .escape (by decide) ih
    · subst htab
      exact .escape (by decide) ih
    · exact .plain hquote hslash ih

/-- Every text can be quoted, and every quoted text is read. A text that is written between two quotes
of either kind, with a backslash before a backslash and before the quote and with line feeds and tabs
as escapes, fills the slot of a quoted text completely, and both the reader of quoted texts and the one
of values give it back. A text fills this slot exactly if it has the shape of a quoted text, and then
both readers give the text that it spells. -/
theorem quoted_texts_are_read :
    (∀ (mark : QuoteMark) (text : String),
      Slot.quoted.take? (mark.literal text).toList = some ((mark.literal text).toList, []) ∧
      Literal.quoted (mark.literal text) = .ok text ∧
      Literal.value (mark.literal text) = .ok text) ∧
    ∀ raw : String, Slot.quoted.take? raw.toList = some (raw.toList, []) ↔
      ∃ mark body text, raw.toList = QuoteMark.enclosed mark body ∧
        SpellsQuoted mark body text.toList ∧
        Literal.quoted raw = .ok text ∧ Literal.value raw = .ok text := by
  constructor
  · intro mark text
    have hspells := spells_spelled mark text.toList
    have htake := takeQuoted?_enclosed hspells []
    have hraw := mark.toList_literal text
    rw [List.append_nil, ← hraw] at htake
    have hquoted := quoted_enclosed hraw hspells
    have hvalue := value_enclosed hraw hspells
    rw [String.ofList_toList] at hquoted hvalue
    exact ⟨htake, hquoted, hvalue⟩
  · intro raw
    constructor
    · intro htake
      obtain ⟨mark, body, text, hraw, hspells⟩ := enclosed_of_takeQuoted? htake
      refine ⟨mark, body, String.ofList text, hraw, ?_, quoted_enclosed hraw hspells,
        value_enclosed hraw hspells⟩
      rwa [String.toList_ofList]
    · rintro ⟨mark, body, text, hraw, hspells, -⟩
      have htake := takeQuoted?_enclosed hspells []
      rwa [List.append_nil, ← hraw] at htake

/-- The backslash before `d` is kept, the one before `n` is not, and the other quote needs none. A quote
behind a backslash ends no text. -/
example :
    Literal.quoted "'c:\\d \"e\"\\n'" = .ok "c:\\d \"e\"\n" ∧
    Literal.quoted "'c:\\'" = .error (.badString "'c:\\'") := by
  decide +kernel

end Microworlds.Proofs

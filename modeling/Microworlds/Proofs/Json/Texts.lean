import Microworlds.Json.Reader
import Microworlds.Proofs.Json.Canonical
import Microworlds.Proofs.Statement.Slots
import Mathlib.Data.List.DropRight

/-!
# The texts of values

A value has many texts. Between its parts there may be white space, and most characters of a string
can also be written as escapes. The reader takes all of them for the value.
-/

namespace Microworlds.Proofs

open Text

/-! ### White space and what stands behind a value -/

/-- White space and nothing else. -/
def Space (cs : List Char) : Prop :=
  ∀ c ∈ cs, Json.isSpace c = true

/-- What can stand behind a value. -/
def Closes (rest : List Char) : Prop :=
  ∀ c more, rest = c :: more → Json.isSpace c = true ∨ c = ',' ∨ c = ']' ∨ c = '\x7d'

/-- A text that begins with no white space and does not close an array or an object. -/
def Opens (cs : List Char) : Prop :=
  ∃ c more, cs = c :: more ∧ Json.isSpace c = false ∧ c ≠ ']' ∧ c ≠ '\x7d'

/-- A text that opens behind white space. -/
def OpensBehind (text : List Char) : Prop :=
  ∃ space cs, text = space ++ cs ∧ Space space ∧ Opens cs

variable {cs rest space : List Char}

lemma isSpace_iff {c : Char} :
    Json.isSpace c = true ↔ c = ' ' ∨ c = '\n' ∨ c = '\t' ∨ c = '\r' := by
  simp only [Json.isSpace, Bool.or_eq_true, beq_iff_eq, or_assoc]

lemma skip_space (h : Space space) (cs : List Char) : Json.skip (space ++ cs) = Json.skip cs :=
  List.dropWhile_append_of_pos h

lemma skip_cons {c : Char} (h : Json.isSpace c = false) (cs : List Char) :
    Json.skip (c :: cs) = c :: cs := by
  rw [Json.skip, List.dropWhile_cons_of_neg (by rw [h]; exact Bool.false_ne_true)]

lemma Opens.skip_eq (h : Opens cs) (rest : List Char) : Json.skip (cs ++ rest) = cs ++ rest := by
  obtain ⟨c, more, rfl, hspace, -⟩ := h
  exact skip_cons hspace (more ++ rest)

lemma Opens.append (h : Opens cs) (rest : List Char) : Opens (cs ++ rest) := by
  obtain ⟨c, more, rfl, hc⟩ := h
  exact ⟨c, more ++ rest, rfl, hc⟩

lemma OpensBehind.length_pos (h : OpensBehind cs) : 0 < cs.length := by
  obtain ⟨space, _, rfl, -, c, more, rfl, -⟩ := h
  simp only [List.length_append, List.length_cons]
  omega

lemma Closes.after_space (hspace : Space space) (h : Closes rest) : Closes (space ++ rest) := by
  cases space with
  | nil => exact h
  | cons c more =>
    intro d others heq
    cases heq
    exact .inl (hspace c List.mem_cons_self)

lemma space_nil : Space [] :=
  fun _ h => absurd h List.not_mem_nil

lemma closes_nil : Closes [] :=
  fun _ _ h => absurd h (List.cons_ne_nil _ _).symm

lemma closes_comma (more : List Char) : Closes (',' :: more) := by
  intro c others heq
  cases heq
  exact .inr (.inl rfl)

lemma closes_bracket (more : List Char) : Closes (']' :: more) := by
  intro c others heq
  cases heq
  exact .inr (.inr (.inl rfl))

lemma closes_brace (more : List Char) : Closes ('\x7d' :: more) := by
  intro c others heq
  cases heq
  exact .inr (.inr (.inr rfl))

/-! ### Whole numbers -/

lemma toDigits_head_ne_zero {n : Nat} (h : 0 < n) {c : Char} {more : List Char}
    (hdigits : Nat.toDigits 10 n = c :: more) : c ≠ '0' := by
  induction n using Nat.strongRecOn generalizing more with
  | ind n ih =>
    by_cases hsmall : n < 10
    · rw [Nat.toDigits_of_lt_base hsmall] at hdigits
      cases hdigits
      have hsome : ∀ d < 10, 0 < d → Nat.digitChar d ≠ '0' := by decide
      exact hsome n hsmall h
    · have hsplit := Nat.toDigits_append_toDigits (b := 10) (n := n / 10) (d := n % 10)
        (by decide) (by omega) (by omega)
      rw [Nat.div_add_mod, hdigits] at hsplit
      obtain ⟨d, others, hfront⟩ :=
        List.exists_cons_of_ne_nil (Nat.toDigits_ne_nil (n := n / 10) (b := 10))
      rw [hfront, List.cons_append] at hsplit
      obtain ⟨rfl, -⟩ := List.cons.inj hsplit
      exact ih (n / 10) (by omega) (by omega) hfront

lemma takeDigits_eq {n : Nat} {digits : List Char} (hdigits : ∀ c ∈ digits, c.isDigit = true)
    (hlimit : Nat.ofDigitChars 10 digits n ≤ Word.greatest64) :
    Json.takeDigits n digits = (Nat.ofDigitChars 10 digits n, []) := by
  induction digits generalizing n with
  | nil => rfl
  | cons c rest ih =>
    rw [Nat.ofDigitChars_cons] at hlimit ⊢
    have hnext : 10 * n + (c.toNat - '0'.toNat) ≤ Word.greatest64 :=
      Nat.le_trans (le_ofDigitChars _ rest) hlimit
    rw [Json.takeDigits, digitValue?_of_isDigit (hdigits c List.mem_cons_self), Option.getD_some,
      if_pos hnext]
    exact ih (fun d hd => hdigits d (List.mem_cons_of_mem c hd)) hlimit

lemma Closes.not_number (h : Closes rest) {c : Char} {more : List Char} (hrest : rest = c :: more) :
    digitValue? c = none ∧ c ≠ '.' ∧ c ≠ 'e' ∧ c ≠ 'E' := by
  have hc := h c more hrest
  rw [isSpace_iff] at hc
  rcases hc with (rfl | rfl | rfl | rfl) | rfl | rfl | rfl <;> decide

lemma digits_toDigits (n : Nat) (h : Closes rest) :
    Decimal.digits (Nat.toDigits 10 n ++ rest) = (Nat.toDigits 10 n, rest) := by
  apply span_append
  · intro c hc
    rw [digitValue?_of_isDigit (isDigit_of_mem_toDigits hc)]
    rfl
  · intro c more hrest
    rw [(h.not_number hrest).1]
    rfl

lemma fractionPart?_closes (h : Closes rest) : Json.fractionPart? rest = some ([], rest) := by
  unfold Json.fractionPart?
  split
  · exact absurd rfl (h.not_number rfl).2.1
  · rfl

lemma exponentPart?_closes (h : Closes rest) : Json.exponentPart? rest = some (0, rest) := by
  cases rest with
  | nil => rfl
  | cons c more =>
    obtain ⟨-, -, hlower, hupper⟩ := h.not_number rfl
    simp [Json.exponentPart?, hlower, hupper]

lemma number?_toDigits (negative : Bool) {n : Nat} (hgreatest : n ≤ Word.greatest64)
    (hsigned : negative = true → 0 < n ∧ n ≤ Word.leastSigned) (h : Closes rest) :
    Json.number? negative (Nat.toDigits 10 n ++ rest) =
      some (.int (if negative then -n else n), rest) := by
  have hread : Json.takeDigits 0 (Nat.toDigits 10 n) = (n, []) := by
    have hall : ∀ c ∈ Nat.toDigits 10 n, c.isDigit = true := fun _ hc => isDigit_of_mem_toDigits hc
    have htake := takeDigits_eq hall (n := 0) (by rwa [Nat.ofDigitChars_ten_toDigits])
    rwa [Nat.ofDigitChars_ten_toDigits] at htake
  have hwhole : ((Nat.toDigits 10 n).isEmpty ||
      ((Nat.toDigits 10 n).head? == some '0' && decide (1 < (Nat.toDigits 10 n).length))) = false := by
    by_cases hn : n = 0
    · rw [hn]
      rfl
    · obtain ⟨c, more, hdigits⟩ :=
        List.exists_cons_of_ne_nil (Nat.toDigits_ne_nil (n := n) (b := 10))
      have hc := toDigits_head_ne_zero (Nat.pos_of_ne_zero hn) hdigits
      simp [hdigits, hc]
  have hplain : (rest.head?.any fun c => c == '.' || c == 'e' || c == 'E') = false := by
    cases rest with
    | nil => rfl
    | cons c more =>
      obtain ⟨-, hpoint, hlower, hupper⟩ := h.not_number rfl
      simp [hpoint, hlower, hupper]
  simp only [Json.number?, digits_toDigits n h, hwhole, Bool.false_eq_true, if_false,
    fractionPart?_closes h, Option.bind_eq_bind, Option.bind_some, exponentPart?_closes h, hread, hplain]
  cases negative with
  | false => rfl
  | true =>
    obtain ⟨hpos, hleast⟩ := hsigned rfl
    simp [hpos, hleast]

/-! ### Strings -/

/-- The letters behind a backslash, each with the character that it stands for. -/
def escapes : List (Char × Char) :=
  [('"', '"'), ('\\', '\\'), ('/', '/'), ('b', '\x08'), ('f', '\x0c'), ('n', '\n'), ('r', '\r'),
    ('t', '\t')]

/-- The ways to write a character inside a string: as it is, by a letter behind a backslash, or by the
four hexadecimal digits of its code. -/
inductive CharText : Char → List Char → Prop where
  | plain (c : Char) (hquote : c ≠ '"') (hbackslash : c ≠ '\\') (hcontrol : 32 ≤ c.toNat) :
    CharText c [c]
  | letter (letter c : Char) (h : (letter, c) ∈ escapes) : CharText c ['\\', letter]
  | code (a b c d : Char) (n : Nat) (h : Json.unit? [a, b, c, d] = some (n, []))
    (hsingle : n < 0xD800 ∨ 0xDFFF < n) : CharText (Char.ofNat n) ['\\', 'u', a, b, c, d]

inductive CharsText : List Char → List Char → Prop where
  | nil : CharsText [] []
  | cons {c : Char} {text cs more : List Char} (h : CharText c cs)
    (hmore : CharsText text more) : CharsText (c :: text) (cs ++ more)

lemma character?_text {c : Char} (h : CharText c cs) (rest : List Char) :
    Json.character? (cs ++ rest) = some (some c, rest) := by
  cases h with
  | plain c hquote hbackslash hcontrol =>
    have hplain : ¬ (decide (c = '\\') || decide (c.toNat < 32)) = true := by
      simp [hbackslash, hcontrol]
    change Json.character? (c :: rest) = _
    unfold Json.character?
    split
    · next heq => exact absurd (List.cons.inj heq).1 hbackslash
    · next heq =>
      cases heq
      rw [if_neg hplain]
    · next heq => cases heq
  | letter letter c h =>
    simp only [escapes, List.mem_cons, List.not_mem_nil, or_false, Prod.mk.injEq] at h
    obtain ⟨rfl, rfl⟩ | ⟨rfl, rfl⟩ | ⟨rfl, rfl⟩ | ⟨rfl, rfl⟩ | ⟨rfl, rfl⟩ | ⟨rfl, rfl⟩ | ⟨rfl, rfl⟩ |
      ⟨rfl, rfl⟩ := h <;> rfl
  | code a b c d n h hsingle =>
    have hunit : Json.unit? (a :: b :: c :: d :: rest) = some (n, rest) := by
      simp only [Json.unit?, Option.bind_eq_bind, Option.bind_eq_some_iff] at h ⊢
      obtain ⟨w, hw, x, hx, y, hy, z, hz, hn⟩ := h
      cases hn
      exact ⟨w, hw, x, hx, y, hy, z, hz, rfl⟩
    have hlow : ¬ (0xDC00 ≤ n ∧ n ≤ 0xDFFF) := by omega
    have hhigh : ¬ (0xD800 ≤ n ∧ n ≤ 0xDBFF) := by omega
    change Json.codePoint? (a :: b :: c :: d :: rest) = _
    rw [Json.codePoint?, hunit, Option.bind_eq_bind, Option.bind_some]
    simp only [if_neg hlow, if_neg hhigh, Option.pure_def]

lemma CharText.head {c : Char} (h : CharText c cs) :
    ∃ first more, cs = first :: more ∧ first ≠ '"' := by
  cases h with
  | plain c hquote => exact ⟨c, [], rfl, hquote⟩
  | letter letter => exact ⟨'\\', [letter], rfl, by decide⟩
  | code a b c d => exact ⟨'\\', ['u', a, b, c, d], rfl, by decide⟩

lemma CharsText.length_le {text : List Char} (h : CharsText text cs) :
    text.length ≤ cs.length := by
  induction h with
  | nil => exact Nat.le_refl 0
  | cons hc hmore ih =>
    obtain ⟨first, more, rfl, -⟩ := hc.head
    simp only [List.length_cons, List.length_append]
    omega

lemma characters?_text {text : List Char} (h : CharsText text cs) {bound : Nat}
    (hbound : text.length ≤ bound) (rest : List Char) :
    Json.characters? bound (cs ++ '"' :: rest) = some (some text, rest) := by
  induction h generalizing bound with
  | nil => cases bound <;> rfl
  | @cons c text cs more hc hmore ih =>
    obtain ⟨first, others, hcs, hquote⟩ := hc.head
    obtain ⟨bound, rfl⟩ : ∃ less, bound = less + 1 := ⟨bound - 1, by simp at hbound; omega⟩
    have hchar := character?_text hc (more ++ '"' :: rest)
    have hrest := ih (by simpa using hbound)
    rw [List.append_assoc, Json.characters?, hchar]
    · simp [hrest]
    · rw [hcs]
      rintro _ ⟨⟩
      exact hquote rfl

lemma hexValue?_digitChar : ∀ n < 16, Json.hexValue? (Nat.digitChar n) = some n := by
  decide

lemma escaped_text (c : Char) : CharText c (Json.escaped c) := by
  unfold Json.escaped
  split_ifs with hquote hbackslash hline hreturn htab hback hform hcontrol
  · exact hquote ▸ .letter '"' '"' (by decide)
  · exact hbackslash ▸ .letter '\\' '\\' (by decide)
  · exact hline ▸ .letter 'n' '\n' (by decide)
  · exact hreturn ▸ .letter 'r' '\r' (by decide)
  · exact htab ▸ .letter 't' '\t' (by decide)
  · exact hback ▸ .letter 'b' '\x08' (by decide)
  · exact hform ▸ .letter 'f' '\x0c' (by decide)
  · have hhigh := hexValue?_digitChar (c.toNat / 16) (by omega)
    have hlow := hexValue?_digitChar (c.toNat % 16) (by omega)
    have hunit : Json.unit? ['0', '0', Nat.digitChar (c.toNat / 16), Nat.digitChar (c.toNat % 16)] =
        some (c.toNat, []) := by
      have hzero : Json.hexValue? '0' = some 0 := rfl
      have hsum : c.toNat / 16 * 16 + c.toNat % 16 = c.toNat := Nat.div_add_mod' _ _
      simp [Json.unit?, hzero, hhigh, hlow, hsum]
    have hcode := CharText.code _ _ _ _ c.toNat hunit (.inl (by omega))
    rwa [Char.ofNat_toNat] at hcode
  · exact .plain c hquote hbackslash (by omega)

lemma flatMap_escaped_text (text : List Char) :
    CharsText text (text.flatMap Json.escaped) := by
  induction text with
  | nil => exact .nil
  | cons c more ih => exact .cons (escaped_text c) ih

/-! ### Values -/

lemma intercalate_map_cons {α : Type} (f : α → List Char) (first next : α) (more : List α) :
    [','].intercalate ((first :: next :: more).map f) =
      f first ++ [','] ++ [','].intercalate ((next :: more).map f) :=
  List.intercalate_cons_cons

/-- An item of an array as it stands in a text, between white space. -/
structure ItemText where
  before : List Char
  value : Json
  text : List Char
  after : List Char

/-- A member of an object as it stands in a text, with the characters of its key as they are written
and the white space in front of the colon. -/
structure MemberText where
  before : List Char
  key : String
  name : List Char
  gap : List Char
  item : ItemText

namespace ItemText

def whole (item : ItemText) : List Char :=
  item.before ++ item.text ++ item.after

structure Spaced (item : ItemText) : Prop where
  before : Space item.before
  after : Space item.after

end ItemText

namespace MemberText

def member (part : MemberText) : String × Json :=
  (part.key, part.item.value)

def whole (part : MemberText) : List Char :=
  part.before ++ '"' :: (part.name ++ '"' :: (part.gap ++ ':' :: part.item.whole))

structure Spaced (part : MemberText) : Prop where
  before : Space part.before
  gap : Space part.gap
  item : part.item.Spaced
  name : CharsText part.key.toList part.name

end MemberText

/-- The texts of a value without flawed parts and floating-point numbers. -/
inductive TextOf : Json → List Char → Prop where
  | null : TextOf .null ['n', 'u', 'l', 'l']
  | true : TextOf (.bool true) ['t', 'r', 'u', 'e']
  | false : TextOf (.bool false) ['f', 'a', 'l', 's', 'e']
  | int (n : Int) (hleast : -(Word.leastSigned : Int) ≤ n) (hgreatest : n ≤ Word.greatest64) :
    TextOf (.int n) (signedDigits n)
  | str (s : String) (cs : List Char) (h : CharsText s.toList cs) :
    TextOf (.str s) ('"' :: (cs ++ ['"']))
  | arr (items : List ItemText) (space : List Char) (hspace : Space space)
    (hspaced : ∀ item ∈ items, item.Spaced) (h : ∀ item ∈ items, TextOf item.value item.text) :
    TextOf (.arr (items.map ItemText.value))
      ('[' :: ([','].intercalate (items.map ItemText.whole) ++ space ++ [']']))
  | obj (parts : List MemberText) (space : List Char) (hspace : Space space)
    (hspaced : ∀ part ∈ parts, part.Spaced)
    (h : ∀ part ∈ parts, TextOf part.item.value part.item.text) :
    TextOf (.obj (parts.map MemberText.member))
      ('\x7b' :: ([','].intercalate (parts.map MemberText.whole) ++ space ++ ['\x7d']))

lemma signedDigits_opens (n : Int) : Opens (signedDigits n) := by
  obtain ⟨c, more, hdigits⟩ := List.exists_cons_of_ne_nil (signedDigits_ne_nil n)
  refine ⟨c, more, hdigits, ?_⟩
  have hc : c ∈ signedDigits n := by
    rw [hdigits]
    exact List.mem_cons_self
  obtain rfl | hdigit := mem_signedDigits hc
  · decide
  · refine ⟨?_, ?_, ?_⟩
    · by_contra hspace
      rw [Bool.not_eq_false, isSpace_iff] at hspace
      obtain rfl | rfl | rfl | rfl := hspace <;> cases hdigit
    · rintro rfl
      cases hdigit
    · rintro rfl
      cases hdigit

lemma TextOf.opens {value : Json} (h : TextOf value cs) : Opens cs := by
  cases h with
  | int n => exact signedDigits_opens n
  | _ => exact ⟨_, _, rfl, by decide⟩

/-! ### Reading -/

/-- A reader takes the text of an item for its value, whatever closes it. -/
def ReadsItem (read : Json.ValueReader) (item : ItemText) : Prop :=
  ∀ rest, Closes rest → read (item.text ++ rest) = some (item.value, rest)

variable {read : Json.ValueReader}

lemma items?_skip (bound : Nat) (cs : List Char) :
    Json.items? read bound (Json.skip cs) = Json.items? read bound cs := by
  cases bound with
  | zero => rfl
  | succ bound =>
    have hskip : Json.skip (Json.skip cs) = Json.skip cs := List.dropWhile_idempotent _ cs
    rw [Json.items?, Json.items?, hskip]

lemma members?_skip (bound : Nat) (cs : List Char) :
    Json.members? read bound (Json.skip cs) = Json.members? read bound cs := by
  cases bound with
  | zero => rfl
  | succ bound =>
    have hskip : Json.skip (Json.skip cs) = Json.skip cs := List.dropWhile_idempotent _ cs
    rw [Json.members?, Json.members?, hskip]

lemma read_item {item : ItemText} (hread : ReadsItem read item) (hspaced : item.Spaced)
    (hopens : Opens item.text) (hspace : Space space) {mark : Char}
    (hmark : Json.isSpace mark = false) (hcloses : Closes (mark :: rest)) :
    ∃ behind, read (Json.skip (item.whole ++ (space ++ mark :: rest))) = some (item.value, behind) ∧
      Json.skip behind = mark :: rest := by
  refine ⟨item.after ++ (space ++ mark :: rest), ?_, ?_⟩
  · rw [ItemText.whole, List.append_assoc, List.append_assoc, skip_space hspaced.before,
      hopens.skip_eq]
    exact hread _ ((hcloses.after_space hspace).after_space hspaced.after)
  · rw [skip_space hspaced.after, skip_space hspace, skip_cons hmark]

lemma items?_text {items : List ItemText} (rest : List Char) (hne : items ≠ [])
    (hspace : Space space)
    (hread : ∀ item ∈ items, ReadsItem read item) (hspaced : ∀ item ∈ items, item.Spaced)
    (hopens : ∀ item ∈ items, Opens item.text) {bound : Nat} (hbound : items.length ≤ bound) :
    Json.items? read bound
      ([','].intercalate (items.map ItemText.whole) ++ (space ++ ']' :: rest)) =
      some (items.map ItemText.value, rest) := by
  induction items generalizing bound with
  | nil => exact absurd rfl hne
  | cons item more ih =>
    obtain ⟨bound, rfl⟩ : ∃ less, bound = less + 1 := ⟨bound - 1, by simp at hbound; omega⟩
    rw [List.forall_mem_cons] at hread hspaced hopens
    cases more with
    | nil =>
      obtain ⟨behind, hitem, hbehind⟩ :=
        read_item hread.1 hspaced.1 hopens.1 hspace rfl (closes_bracket rest)
      simp [Json.items?, hitem, hbehind]
    | cons next others =>
      have hmore := ih (List.cons_ne_nil _ _) hread.2 hspaced.2 hopens.2
        (Nat.le_of_succ_le_succ hbound)
      obtain ⟨behind, hitem, hbehind⟩ := read_item hread.1 hspaced.1 hopens.1
        space_nil rfl (closes_comma
          ([','].intercalate ((next :: others).map ItemText.whole) ++ (space ++ ']' :: rest)))
      rw [List.nil_append] at hitem
      rw [intercalate_map_cons, List.append_assoc, List.append_assoc, List.singleton_append,
        Json.items?, hitem]
      simp only [Option.bind_eq_bind, Option.bind_some, hbehind, hmore]
      rfl

lemma string?_text {s : String} (h : CharsText s.toList cs) {bound : Nat}
    (hbound : s.toList.length ≤ bound) (rest : List Char) :
    Json.string? bound (cs ++ '"' :: rest) = some (some s, rest) := by
  rw [Json.string?, characters?_text h hbound]
  simp

lemma members?_key {part : MemberText} (hspaced : part.Spaced) {bound : Nat}
    (hbound : part.name.length ≤ bound) (behind : List Char) :
    Json.members? read (bound + 1) (part.whole ++ behind) = (do
      let (item, rest) ← read (Json.skip (part.item.whole ++ behind))
      match Json.skip rest with
      | ',' :: rest =>
        let (more, rest) ← Json.members? read bound rest
        return (more.map ((part.key, item) :: ·), rest)
      | '\x7d' :: rest => return (some [(part.key, item)], rest)
      | _ => none) := by
  have hkey := string?_text hspaced.name (Nat.le_trans hspaced.name.length_le hbound)
    (part.gap ++ ':' :: (part.item.whole ++ behind))
  have hquote : Json.skip (part.whole ++ behind) =
      '"' :: (part.name ++ '"' :: (part.gap ++ ':' :: (part.item.whole ++ behind))) := by
    simp only [MemberText.whole, List.append_assoc, List.cons_append]
    rw [skip_space hspaced.before, skip_cons rfl]
  have hcolon : Json.skip (part.gap ++ ':' :: (part.item.whole ++ behind)) =
      ':' :: (part.item.whole ++ behind) := by
    rw [skip_space hspaced.gap, skip_cons rfl]
  rw [Json.members?, hquote]
  simp only [hkey, Option.bind_eq_bind, Option.bind_some, hcolon]
  rfl

lemma members?_text {parts : List MemberText} (rest : List Char) (hne : parts ≠ [])
    (hspace : Space space)
    (hread : ∀ part ∈ parts, ReadsItem read part.item) (hspaced : ∀ part ∈ parts, part.Spaced)
    (hopens : ∀ part ∈ parts, Opens part.item.text) {bound : Nat}
    (hbound : parts.length ≤ bound)
    (hnames : ∀ part ∈ parts, part.name.length + parts.length ≤ bound) :
    Json.members? read bound
      ([','].intercalate (parts.map MemberText.whole) ++ (space ++ '\x7d' :: rest)) =
      some (some (parts.map MemberText.member), rest) := by
  induction parts generalizing bound with
  | nil => exact absurd rfl hne
  | cons part more ih =>
    obtain ⟨bound, rfl⟩ : ∃ less, bound = less + 1 := ⟨bound - 1, by simp at hbound; omega⟩
    rw [List.forall_mem_cons] at hread hspaced hopens hnames
    have hname : part.name.length ≤ bound := by
      have hfirst := hnames.1
      rw [List.length_cons] at hfirst
      omega
    cases more with
    | nil =>
      obtain ⟨behind, hitem, hbehind⟩ := read_item hread.1 hspaced.1.item hopens.1 hspace rfl
        (closes_brace rest)
      rw [List.map_singleton, List.intercalate_singleton, members?_key hspaced.1 hname, hitem]
      simp only [Option.bind_eq_bind, Option.bind_some, hbehind]
      rfl
    | cons next others =>
      have hmore := ih (List.cons_ne_nil _ _) hread.2 hspaced.2 hopens.2
        (Nat.le_of_succ_le_succ hbound) fun other hother => by
          have hother := hnames.2 other hother
          rw [List.length_cons] at hother
          omega
      obtain ⟨behind, hitem, hbehind⟩ := read_item hread.1 hspaced.1.item hopens.1
        space_nil rfl (closes_comma
          ([','].intercalate ((next :: others).map MemberText.whole) ++ (space ++ '\x7d' :: rest)))
      rw [List.nil_append] at hitem
      rw [intercalate_map_cons, List.append_assoc, List.append_assoc, List.singleton_append,
        members?_key hspaced.1 hname, hitem]
      simp only [Option.bind_eq_bind, Option.bind_some, hbehind, hmore]
      rfl

lemma value?_arr {bound levels : Nat} (h : ∀ more, Json.skip cs ≠ ']' :: more) :
    Json.value? (bound + 1) levels ('[' :: cs) =
      (Json.items? (Json.value? bound (levels - 1)) bound cs).map fun found =>
        (Json.within levels (.arr found.1), found.2) := by
  rw [← items?_skip, Json.value?]
  split
  · next heq => exact absurd heq (h _)
  · rfl

lemma value?_obj {bound levels : Nat} (h : ∀ more, Json.skip cs ≠ '\x7d' :: more) :
    Json.value? (bound + 1) levels ('\x7b' :: cs) =
      (Json.members? (Json.value? bound (levels - 1)) bound cs).map fun found =>
        (Json.within levels (found.1.elim .flawed .obj), found.2) := by
  rw [← members?_skip, Json.value?]
  split
  · next heq => exact absurd heq (h _)
  · rfl

lemma value?_arr_nil {bound levels : Nat} (hspace : Space space) :
    Json.value? (bound + 1) levels ('[' :: (space ++ ']' :: rest)) =
      some (Json.within levels (.arr []), rest) := by
  have hskip : Json.skip (space ++ ']' :: rest) = ']' :: rest := by
    rw [skip_space hspace, skip_cons rfl]
  simp only [Json.value?, hskip]

lemma value?_obj_nil {bound levels : Nat} (hspace : Space space) :
    Json.value? (bound + 1) levels ('\x7b' :: (space ++ '\x7d' :: rest)) =
      some (Json.within levels (.obj []), rest) := by
  have hskip : Json.skip (space ++ '\x7d' :: rest) = '\x7d' :: rest := by
    rw [skip_space hspace, skip_cons rfl]
  simp only [Json.value?, hskip]

lemma value?_digit {c : Char} {more : List Char} {bound levels : Nat} (h : c.isDigit = true) :
    Json.value? (bound + 1) levels (c :: more) = Json.number? false (c :: more) := by
  have hne : ∀ d : Char, d.isDigit = false → c ≠ d := by
    rintro d hd rfl
    rw [h] at hd
    cases hd
  rw [Json.value?]
  · unfold Json.scalar?
    split
    · next heq => exact absurd (List.cons.inj heq).1 (hne 'n' rfl)
    · next heq => exact absurd (List.cons.inj heq).1 (hne 't' rfl)
    · next heq => exact absurd (List.cons.inj heq).1 (hne 'f' rfl)
    · next heq => exact absurd (List.cons.inj heq).1 (hne '"' rfl)
    · next heq => exact absurd (List.cons.inj heq).1 (hne '-' rfl)
    · rfl
  · exact fun _ heq => hne '[' rfl (List.cons.inj heq).1
  · exact fun _ heq => hne '\x7b' rfl (List.cons.inj heq).1

lemma value?_int {n : Int} (hleast : -(Word.leastSigned : Int) ≤ n) (hgreatest : n ≤ Word.greatest64)
    {bound levels : Nat} (h : Closes rest) :
    Json.value? (bound + 1) levels (signedDigits n ++ rest) = some (.int n, rest) := by
  have hrange : Word.leastSigned ≤ Word.greatest64 := by decide
  unfold signedDigits
  by_cases hneg : n < 0
  · have hread := number?_toDigits true (n := n.natAbs) (by omega) (fun _ => by omega) h
    have habs : -(n.natAbs : Int) = n := by omega
    rw [if_pos rfl, habs] at hread
    rw [if_pos hneg]
    exact hread
  · have hread := number?_toDigits false (n := n.natAbs) (by omega) nofun h
    have habs : (n.natAbs : Int) = n := by omega
    rw [if_neg Bool.false_ne_true, habs] at hread
    rw [if_neg hneg]
    obtain ⟨c, more, hdigits⟩ :=
      List.exists_cons_of_ne_nil (Nat.toDigits_ne_nil (n := n.natAbs) (b := 10))
    have hc : c.isDigit = true := isDigit_of_mem_toDigits (n := n.natAbs) (by simp [hdigits])
    rw [hdigits, List.cons_append] at hread ⊢
    rw [value?_digit hc, hread]

lemma length_le_intercalate {texts : List (List Char)} (hne : ∀ text ∈ texts, OpensBehind text)
    {text : List Char} (h : text ∈ texts) :
    text.length + texts.length ≤ ([','].intercalate texts).length + 1 := by
  induction texts generalizing text with
  | nil => cases h
  | cons first more ih =>
    rw [List.forall_mem_cons] at hne
    cases more with
    | nil =>
      obtain rfl := List.mem_singleton.mp h
      simp
    | cons next others =>
      have hnext := ih hne.2 List.mem_cons_self
      have hpos : 0 < next.length := (hne.2 next List.mem_cons_self).length_pos
      simp only [List.intercalate_cons_cons, List.length_append, List.length_cons,
        List.length_nil] at hnext ih ⊢
      rcases List.mem_cons.mp h with rfl | hmore
      · omega
      · have hlater := ih hne.2 hmore
        omega

lemma ItemText.opensBehind {item : ItemText} (hspaced : item.Spaced) (h : Opens item.text) :
    OpensBehind item.whole :=
  ⟨item.before, item.text ++ item.after, List.append_assoc _ _ _, hspaced.before, h.append _⟩

lemma MemberText.opensBehind {part : MemberText} (hspaced : part.Spaced) : OpensBehind part.whole :=
  ⟨part.before, _, rfl, hspaced.before, '"', _, rfl, by decide⟩

lemma skip_intercalate_ne {texts : List (List Char)} (hne : texts ≠ [])
    (htexts : ∀ text ∈ texts, OpensBehind text) {mark : Char} (hmark : mark = ']' ∨ mark = '\x7d')
    (behind others : List Char) :
    Json.skip ([','].intercalate texts ++ behind) ≠ mark :: others := by
  obtain ⟨first, more, rfl⟩ := List.exists_cons_of_ne_nil hne
  obtain ⟨space, text, rfl, hspace, hopens⟩ := htexts first List.mem_cons_self
  obtain ⟨rest, hrest⟩ :
      ∃ rest, [','].intercalate ((space ++ text) :: more) = space ++ (text ++ rest) := by
    cases more with
    | nil => exact ⟨[], by simp⟩
    | cons next others =>
      refine ⟨[','] ++ [','].intercalate (next :: others), ?_⟩
      rw [List.intercalate_cons_cons]
      simp only [List.append_assoc]
  rw [hrest, List.append_assoc, skip_space hspace, List.append_assoc, hopens.skip_eq]
  obtain ⟨c, more, rfl, -, hbracket, hbrace⟩ := hopens
  intro heq
  obtain ⟨rfl, -⟩ := List.cons.inj heq
  exact hmark.elim hbracket hbrace

lemma within_succ (levels : Nat) (value : Json) : Json.within (levels + 1) value = value :=
  if_neg (Nat.succ_ne_zero levels)

lemma length_lt_of_intercalate {texts : List (List Char)} {opening closing : Char} {bound : Nat}
    (hbound : (opening :: ([','].intercalate texts ++ space ++ [closing])).length < bound + 1)
    (htexts : ∀ text ∈ texts, OpensBehind text) :
    ∀ text ∈ texts, text.length + texts.length < bound := by
  intro text htext
  have hroom := length_le_intercalate htexts htext
  simp only [List.length_cons, List.length_append, List.length_nil] at hbound
  omega

lemma value?_items {items : List ItemText} {bound levels : Nat} (hspace : Space space)
    (hspaced : ∀ item ∈ items, item.Spaced) (hopens : ∀ item ∈ items, Opens item.text)
    (hread : ∀ item ∈ items, ReadsItem (Json.value? bound levels) item)
    (hroom : ∀ item ∈ items, item.text.length + items.length < bound) (rest : List Char) :
    Json.value? (bound + 1) (levels + 1)
      ('[' :: ([','].intercalate (items.map ItemText.whole) ++ (space ++ ']' :: rest))) =
      some (.arr (items.map ItemText.value), rest) := by
  by_cases hne : items = []
  · subst hne
    exact value?_arr_nil hspace
  · obtain ⟨first, hfirst⟩ := List.exists_mem_of_ne_nil items hne
    have hbound : items.length ≤ bound :=
      (Nat.le_add_left _ _).trans (hroom first hfirst).le
    have hwhole : ∀ text ∈ items.map ItemText.whole, OpensBehind text :=
      List.forall_mem_map.mpr fun item hitem =>
        item.opensBehind (hspaced item hitem) (hopens item hitem)
    have hitems := items?_text rest hne hspace hread hspaced hopens hbound
    rw [value?_arr (skip_intercalate_ne (mt List.map_eq_nil_iff.mp hne) hwhole (.inl rfl) _),
      Nat.add_sub_cancel, hitems, Option.map_some, within_succ]

lemma value?_members {parts : List MemberText} {bound levels : Nat} (hspace : Space space)
    (hspaced : ∀ part ∈ parts, part.Spaced) (hopens : ∀ part ∈ parts, Opens part.item.text)
    (hread : ∀ part ∈ parts, ReadsItem (Json.value? bound levels) part.item)
    (hroom : ∀ part ∈ parts, part.name.length + parts.length < bound) (rest : List Char) :
    Json.value? (bound + 1) (levels + 1)
      ('\x7b' :: ([','].intercalate (parts.map MemberText.whole) ++ (space ++ '\x7d' :: rest))) =
      some (.obj (parts.map MemberText.member), rest) := by
  by_cases hne : parts = []
  · subst hne
    exact value?_obj_nil hspace
  · obtain ⟨first, hfirst⟩ := List.exists_mem_of_ne_nil parts hne
    have hbound : parts.length ≤ bound :=
      (Nat.le_add_left _ _).trans (hroom first hfirst).le
    have hwhole : ∀ text ∈ parts.map MemberText.whole, OpensBehind text :=
      List.forall_mem_map.mpr fun part hpart => part.opensBehind (hspaced part hpart)
    have hmembers := members?_text rest hne hspace hread hspaced hopens hbound
      fun part hpart => (hroom part hpart).le
    rw [value?_obj (skip_intercalate_ne (mt List.map_eq_nil_iff.mp hne) hwhole (.inr rfl) _),
      Nat.add_sub_cancel, hmembers, Option.map_some, within_succ]
    rfl

lemma value?_text {value : Json} (h : TextOf value cs) {bound levels : Nat}
    (hbound : cs.length < bound) (hlevels : value.levels ≤ levels) (hrest : Closes rest) :
    Json.value? bound levels (cs ++ rest) = some (value, rest) := by
  induction h generalizing bound levels rest with
  | arr items space hspace hspaced h ih =>
    obtain ⟨bound, rfl⟩ := Nat.exists_eq_add_one_of_ne_zero (Nat.ne_zero_of_lt hbound)
    obtain ⟨levels, rfl⟩ : ∃ less, levels = less + 1 := by
      exact ⟨levels - 1, by rw [Json.levels] at hlevels; omega⟩
    have hopens : ∀ item ∈ items, Opens item.text := fun item hitem => (h item hitem).opens
    have hroom : ∀ item ∈ items, item.text.length + items.length < bound := by
      intro item hitem
      have hlength := length_lt_of_intercalate hbound
        (List.forall_mem_map.mpr fun item hitem =>
          item.opensBehind (hspaced item hitem) (hopens item hitem)) _ (List.mem_map_of_mem hitem)
      simp only [ItemText.whole, List.length_append, List.length_map] at hlength
      omega
    have hread : ∀ item ∈ items, ReadsItem (Json.value? bound levels) item := by
      intro item hitem rest hrest
      have hshorter := hroom item hitem
      have hlower := levels_lt_of_item (List.mem_map_of_mem (f := ItemText.value) hitem)
      exact ih item hitem (by omega) (by omega) hrest
    rw [List.cons_append, List.append_assoc, List.append_assoc, List.singleton_append]
    exact value?_items hspace hspaced hopens hread hroom rest
  | obj parts space hspace hspaced h ih =>
    obtain ⟨bound, rfl⟩ := Nat.exists_eq_add_one_of_ne_zero (Nat.ne_zero_of_lt hbound)
    obtain ⟨levels, rfl⟩ : ∃ less, levels = less + 1 := by
      exact ⟨levels - 1, by rw [Json.levels] at hlevels; omega⟩
    have hroom : ∀ part ∈ parts,
        part.item.text.length < bound ∧ part.name.length + parts.length < bound := by
      intro part hpart
      have hlength := length_lt_of_intercalate hbound
        (List.forall_mem_map.mpr fun part hpart => part.opensBehind (hspaced part hpart)) _
        (List.mem_map_of_mem hpart)
      simp only [MemberText.whole, ItemText.whole, List.length_cons, List.length_append,
        List.length_map] at hlength
      omega
    have hread : ∀ part ∈ parts, ReadsItem (Json.value? bound levels) part.item := by
      intro part hpart rest hrest
      have hlower := levels_lt_of_mem (List.mem_map_of_mem (f := MemberText.member) hpart)
      exact ih part hpart (hroom part hpart).1 (by omega) hrest
    rw [List.cons_append, List.append_assoc, List.append_assoc, List.singleton_append]
    exact value?_members hspace hspaced (fun part hpart => (h part hpart).opens) hread
      (fun part hpart => (hroom part hpart).2) rest
  | str s cs h =>
    obtain ⟨bound, rfl⟩ := Nat.exists_eq_add_one_of_ne_zero (Nat.ne_zero_of_lt hbound)
    have hlength : s.toList.length ≤ bound := by
      have htext := h.length_le
      simp only [List.length_cons, List.length_append] at hbound
      omega
    change (Json.string? bound (cs ++ ['"'] ++ rest)).map _ = _
    rw [List.append_assoc, List.singleton_append, string?_text h hlength]
    rfl
  | int n hleast hgreatest =>
    obtain ⟨bound, rfl⟩ := Nat.exists_eq_add_one_of_ne_zero (Nat.ne_zero_of_lt hbound)
    exact value?_int hleast hgreatest hrest
  | null | true | false =>
    obtain ⟨bound, rfl⟩ := Nat.exists_eq_add_one_of_ne_zero (Nat.ne_zero_of_lt hbound)
    rfl

/-- A text of a value with white space around it is read as the value. -/
theorem read?_text {value : Json} (h : TextOf value cs) (hlevels : value.levels ≤ Json.maxLevels)
    {before after : List Char} (hbefore : Space before) (hafter : Space after) :
    Json.read? (String.ofList (before ++ cs ++ after)) = some value := by
  have hlength : cs.length < (String.ofList (before ++ cs ++ after)).length + 1 := by
    simp only [String.length_ofList, List.length_append]
    omega
  have hcloses : Closes after := by simpa using closes_nil.after_space hafter
  have hread := value?_text h hlength hlevels hcloses
  have hstart : Json.skip (before ++ cs ++ after) = cs ++ after := by
    rw [List.append_assoc, skip_space hbefore, h.opens.skip_eq]
  have hend : Json.skip after = [] := List.dropWhile_eq_nil_iff.mpr hafter
  rw [Json.read?, String.toList_ofList, hstart, hread]
  simp [hend]

end Microworlds.Proofs

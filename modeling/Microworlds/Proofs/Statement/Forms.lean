import Microworlds.Language
import Microworlds.Proofs.Statement.Apart

/-!
# Canonical texts of a form are read by its rule

The canonical text of a form has no white space where it may be left out, and one blank where it may
not. It has the shape of the form, with the values that stand in it. If the forms before it in a table
are apart from it, then the table finds its rule.
-/

namespace Microworlds.Proofs

open Text

def glyphs : List Piece → List Glyph
  | [] => []
  | .text text :: more => text.toList.map .char ++ glyphs more
  | .gap :: more => glyphs more
  | .space :: more => .char ' ' :: glyphs more
  | .slot s :: more => .slot s :: glyphs more

def filled : (pieces : List Piece) → Pieces.Values pieces → List Char
  | [], _ => []
  | .text text :: more, values => text.toList ++ filled more values
  | .gap :: more, values => filled more values
  | .space :: more, values => ' ' :: filled more values
  | .slot s :: more, (value, values) => (written s value).toList ++ filled more values

/-- Whether all values are in the range of their slots. -/
def ValuesInRange : (pieces : List Piece) → Pieces.Values pieces → Prop
  | [], _ => True
  | .text _ :: more, values => ValuesInRange more values
  | .gap :: more, values => ValuesInRange more values
  | .space :: more, values => ValuesInRange more values
  | .slot s :: more, (value, values) => InRange s value ∧ ValuesInRange more values

/-- Whether no text begins with white space. -/
def opensDark : List Glyph → Bool
  | .char c :: _ => !isBlank c
  | .tail :: _ => false
  | _ => true

/-- Whether the pieces of a form can be told from each other in its canonical texts: every value ends
where the next piece begins, and white space is not followed by more of it. -/
def readable : List Piece → Bool
  | [] => true
  | .text _ :: more => readable more
  | .gap :: more | .space :: more => opensDark (glyphs more) && readable more
  | .slot s :: more => opens (stops s) (glyphs more) && readable more

lemma renders_chars (text : List Char) {q : List Glyph} {cs : List Char} (hq : Renders q cs) :
    Renders (text.map .char ++ q) (text ++ cs) := by
  induction text with
  | nil => exact hq
  | cons c more ih => exact .char c ih

lemma renders_filled (pieces : List Piece) (values : Pieces.Values pieces)
    (h : ValuesInRange pieces values) : Renders (glyphs pieces) (filled pieces values) := by
  induction pieces with
  | nil => exact .nil
  | cons piece more ih =>
    cases piece with
    | text text => exact renders_chars text.toList (ih values h)
    | gap => exact ih values h
    | space => exact .char ' ' (ih values h)
    | slot s => exact .slot s values.1 h.1 (ih values.2 h.2)

lemma dark_of_renders {q : List Glyph} {c : Char} {more : List Char} (h : opensDark q = true)
    (hq : Renders q (c :: more)) : isBlank c = false := by
  generalize htext : c :: more = cs at hq
  cases hq with
  | nil => cases htext
  | char d hq =>
    cases htext
    simpa [opensDark] using h
  | slot s v hv hq =>
    obtain ⟨d, others, hd, hdark⟩ := (solid_written s v hv).first
    rw [hd] at htext
    cases htext
    exact hdark
  | tail d others hd hq => cases h

lemma trimStart_of_opensDark {q : List Glyph} {cs : List Char} (hq : Renders q cs)
    (h : opensDark q = true) : trimStart cs = cs := by
  cases cs with
  | nil => rfl
  | cons c more => rw [trimStart, List.dropWhile_cons_of_neg (by simp [dark_of_renders h hq])]

lemma match?_filled (pieces : List Piece) (values : Pieces.Values pieces)
    (hreadable : readable pieces = true) (h : ValuesInRange pieces values) :
    Pieces.match? pieces (filled pieces values) = some (.ok values) := by
  induction pieces with
  | nil => rfl
  | cons piece more ih =>
    cases piece with
    | text text =>
      rw [filled, Pieces.match?, dropFront?_append, Option.bind_some]
      exact ih values hreadable h
    | gap =>
      rw [readable, Bool.and_eq_true] at hreadable
      rw [filled, Pieces.match?, trimStart_of_opensDark (renders_filled more values h) hreadable.1]
      exact ih values hreadable.2 h
    | space =>
      rw [readable, Bool.and_eq_true] at hreadable
      have hblank : isBlank ' ' = true := by decide
      rw [filled, Pieces.match?, if_pos hblank,
        trimStart_of_opensDark (renders_filled more values h) hreadable.1]
      exact ih values hreadable.2 h
    | slot s =>
      rw [readable, Bool.and_eq_true] at hreadable
      obtain ⟨value, values⟩ := values
      have hstops : Stops s (filled more values) := by
        intro c rest hrest
        have hq := renders_filled more values h.2
        rw [hrest] at hq
        exact opens_renders hreadable.1 hq
      rw [filled, Pieces.match?, take?_written s value h.1 _ hstops]
      simp only [ih values hreadable.2 h.2, Option.map_some, String.ofList_toList,
        read_written s value h.1]

/-- Whether all texts end with a character that is no white space. -/
def closes : List Glyph → Bool
  | [] => false
  | [.char c] => !isBlank c
  | [.slot _] => true
  | [.tail] => false
  | _ :: next :: q => closes (next :: q)

/-- Whether all texts are lines that begin and end with a character that is no white space. -/
def tidy (q : List Glyph) : Bool :=
  opensDark q && closes q && q.all (· != .char '\n')

lemma renders_nil {cs : List Char} (hq : Renders [] cs) : cs = [] := by
  cases hq
  rfl

lemma last_of_closes {q : List Glyph} {cs : List Char} (hq : Renders q cs) (h : closes q = true) :
    ∃ more c, cs = more ++ [c] ∧ isBlank c = false := by
  induction hq with
  | nil => cases h
  | @char c q cs hq ih =>
    cases q with
    | nil =>
      rw [renders_nil hq]
      exact ⟨[], c, rfl, by simpa [closes] using h⟩
    | cons next q =>
      obtain ⟨more, d, rfl, hd⟩ := ih h
      exact ⟨c :: more, d, rfl, hd⟩
  | @slot s v hv q cs hq ih =>
    cases q with
    | nil =>
      rw [renders_nil hq, List.append_nil]
      exact (solid_written s v hv).last
    | cons next q =>
      obtain ⟨more, d, rfl, hd⟩ := ih h
      exact ⟨(written s v).toList ++ more, d, by simp, hd⟩
  | @tail c more hc q cs hq ih =>
    cases q with
    | nil => cases h
    | cons next q =>
      obtain ⟨others, d, rfl, hd⟩ := ih h
      exact ⟨c :: (more ++ others), d, by simp, hd⟩

lemma oneLine_of_all {q : List Glyph} {cs : List Char} (hq : Renders q cs)
    (h : q.all (· != .char '\n') = true) (htail : .tail ∉ q) : '\n' ∉ cs := by
  induction hq with
  | nil => simp
  | char c hq ih =>
    rw [List.all_cons, Bool.and_eq_true] at h
    have hc : c ≠ '\n' := by simpa using h.1
    have hmore := ih h.2 fun hm => htail (List.mem_cons_of_mem _ hm)
    rw [List.mem_cons, not_or]
    exact ⟨Ne.symm hc, hmore⟩
  | slot s v hv hq ih =>
    rw [List.all_cons, Bool.and_eq_true] at h
    have hmore := ih h.2 fun hm => htail (List.mem_cons_of_mem _ hm)
    rw [List.mem_append, not_or]
    exact ⟨(solid_written s v hv).oneLine, hmore⟩
  | tail c more hc hq ih => exact absurd List.mem_cons_self htail

lemma tail_not_mem_glyphs (pieces : List Piece) : .tail ∉ glyphs pieces := by
  induction pieces with
  | nil => simp [glyphs]
  | cons piece more ih => cases piece <;> simpa [glyphs] using ih

lemma solid_filled (pieces : List Piece) (values : Pieces.Values pieces)
    (htidy : tidy (glyphs pieces) = true) (h : ValuesInRange pieces values) :
    Solid (filled pieces values) := by
  have hq := renders_filled pieces values h
  rw [tidy, Bool.and_eq_true, Bool.and_eq_true] at htidy
  obtain ⟨⟨hopens, hcloses⟩, hall⟩ := htidy
  have hlast := last_of_closes hq hcloses
  refine ⟨?_, hlast, oneLine_of_all hq hall (tail_not_mem_glyphs pieces)⟩
  cases hfirst : filled pieces values with
  | nil =>
    obtain ⟨more, c, htext, -⟩ := hlast
    simp [hfirst] at htext
  | cons c more =>
    rw [hfirst] at hq
    exact ⟨c, more, rfl, dark_of_renders hopens hq⟩

variable {κ μ : Type}

/-- Whether the canonical texts of a form belong to it: its pieces can be told from each other, and no
form that is tried before it has the shape of any of them. -/
def clear (rules : List (Rule κ)) (rule : Rule κ) (i j : Nat) (pieces : List Piece) : Bool :=
  readable pieces && tidy (glyphs pieces) &&
    (rules.take i).all (fun earlier =>
      earlier.forms.all fun form => apart form.pieces (glyphs pieces)) &&
    (rule.forms.take j).all fun form => apart form.pieces (glyphs pieces)

/-- Whether this holds of some forms of a table, each given by the number of its rule and its own. -/
def clearAt (rules : List (Rule κ)) (places : List (Nat × Nat)) : Bool :=
  places.all fun (i, j) =>
    match rules[i]? with
    | some rule =>
      match rule.forms[j]? with
      | some form => clear rules rule i j form.pieces
      | none => false
    | none => false

/-- Whether a table takes a line for a command, and the line is one that trimming leaves as it is. -/
def Understood (rules : List (Rule κ)) (line : List Char) (command : κ) : Prop :=
  Solid line ∧ ∃ rule, Rule.first? rules line = some (rule, .ok command)

lemma clear_of_mem {rules : List (Rule κ)} {places : List (Nat × Nat)}
    (h : clearAt rules places = true) {i j : Nat} (hmem : places.elem (i, j) = true) {rule : Rule κ}
    {form : Form κ} (hrule : rules[i]? = some rule) (hform : rule.forms[j]? = some form) :
    clear rules rule i j form.pieces = true := by
  have hplace := List.all_eq_true.mp h (i, j) (List.elem_iff.mp hmem)
  simpa only [hrule, hform] using hplace

lemma findSome?_of_take {α β : Type} {f : α → Option β} {l : List α} {i : Nat} {a : α} {b : β}
    (ha : l[i]? = some a) (hbefore : ∀ x ∈ l.take i, f x = none) (hb : f a = some b) :
    l.findSome? f = some b := by
  induction l generalizing i with
  | nil => cases ha
  | cons x l ih =>
    cases i with
    | zero =>
      cases ha
      rw [List.findSome?_cons, hb]
    | succ i =>
      rw [List.take_succ_cons] at hbefore
      rw [List.findSome?_cons, hbefore x List.mem_cons_self]
      exact ih ha fun y hy => hbefore y (List.mem_cons_of_mem x hy)

/-- The canonical text of a clear form is understood as what the form means. -/
theorem understood_of_clear {rules : List (Rule κ)} (i j : Nat) {rule : Rule κ} {form : Form κ}
    (hrule : rules[i]? = some rule) (hform : rule.forms[j]? = some form)
    (hclear : clear rules rule i j form.pieces = true) (values : Pieces.Values form.pieces)
    (hvalues : ValuesInRange form.pieces values) :
    Understood rules (filled form.pieces values) (form.meaning values) := by
  simp only [clear, Bool.and_eq_true, List.all_eq_true] at hclear
  obtain ⟨⟨⟨hreadable, htidy⟩, hrules⟩, hforms⟩ := hclear
  have hq := renders_filled form.pieces values hvalues
  have hmatch : form.match? (filled form.pieces values) = some (.ok (form.meaning values)) := by
    rw [Form.match?, match?_filled form.pieces values hreadable hvalues]
    rfl
  have hmissed : ∀ other : Form κ, apart other.pieces (glyphs form.pieces) = true →
      other.match? (filled form.pieces values) = none := by
    intro other hother
    rw [Form.match?, match?_of_apart hother hq, Option.map_none]
  have hown : rule.match? (filled form.pieces values) = some (.ok (form.meaning values)) :=
    findSome?_of_take hform (fun other hother => hmissed other (hforms other hother)) hmatch
  refine ⟨solid_filled form.pieces values htidy hvalues, rule, ?_⟩
  refine findSome?_of_take hrule (fun earlier hearlier => ?_) (by rw [hown, Option.map_some])
  have hnone : earlier.match? (filled form.pieces values) = none := by
    rw [Rule.match?, List.findSome?_eq_none_iff]
    exact fun other hother => hmissed other (hrules earlier hearlier other hother)
  rw [hnone, Option.map_none]

lemma match?_map (f : κ → μ) (rule : Rule κ) (line : List Char) :
    (rule.map f).match? line = (rule.match? line).map (·.map f) := by
  have hform : ∀ form : Form κ,
      Form.match? ⟨form.pieces, fun values => f (form.meaning values)⟩ line =
        (form.match? line).map (·.map f) := by
    intro form
    rw [Form.match?, Form.match?, Option.map_map]
    congr 1
    funext values
    cases values <;> rfl
  rw [Rule.match?, Rule.match?, Rule.map, List.findSome?_map, List.map_findSome?]
  congr 1
  funext form
  exact hform form

lemma first?_map (f : κ → μ) (rules : List (Rule κ)) (line : List Char) :
    Rule.first? (rules.map (.map f)) line =
      (Rule.first? rules line).map fun found => (found.1.map f, found.2.map f) := by
  rw [Rule.first?, Rule.first?, List.findSome?_map, List.map_findSome?]
  congr 1
  funext rule
  simp only [Function.comp, match?_map, Option.map_map]
  rfl

lemma understood_map {rules : List (Rule κ)} {line : List Char} {command : κ} (f : κ → μ)
    (h : Understood rules line command) : Understood (rules.map (.map f)) line (f command) := by
  obtain ⟨hsolid, rule, hfirst⟩ := h
  exact ⟨hsolid, rule.map f, by rw [first?_map, hfirst]; rfl⟩

lemma classify_of_understood {rules : List (Rule Command)} {line : String} {command : Command}
    (h : Understood rules line.toList command) :
    ∃ rule family, classify rules line = .ok ⟨command, rule, family, line⟩ := by
  obtain ⟨hsolid, rule, hfirst⟩ := h
  refine ⟨rule.name, rule.family, ?_⟩
  rw [classify]
  simp only [trim_of_solid hsolid, hfirst, String.ofList_toList]

end Microworlds.Proofs

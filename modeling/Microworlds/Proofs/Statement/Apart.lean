import Microworlds.Statement.Form
import Microworlds.Proofs.Statement.Slots

/-!
# Forms that no canonical text of another form has

The canonical texts of a form are fixed characters with the texts of values between them. `apart`
compares another form with them piece by piece: it knows what every text of a slot can begin with and
where it ends. If it says yes, then no canonical text of the one form has the shape of the other.
-/

namespace Microworlds.Proofs

open Text

/-- What canonical texts consist of: fixed characters, the texts of values, and what may be left of a
name behind its front. -/
inductive Glyph where
  | char (c : Char)
  | slot (s : Slot)
  | tail
  deriving DecidableEq

/-- The texts in which a value in the range of its slot stands in every place. -/
inductive Renders : List Glyph → List Char → Prop where
  | nil : Renders [] []
  | char (c : Char) {q : List Glyph} {cs : List Char} (h : Renders q cs) :
      Renders (.char c :: q) (c :: cs)
  | slot (s : Slot) (v : s.Value) (hv : InRange s v) {q : List Glyph} {cs : List Char}
      (h : Renders q cs) : Renders (.slot s :: q) ((written s v).toList ++ cs)
  | tail (c : Char) (more : List Char) (hc : continuesName c = true) {q : List Glyph}
      {cs : List Char} (h : Renders q cs) : Renders (.tail :: q) (c :: (more ++ cs))

/-- Whether all texts begin with a character of a kind, unless they are empty. -/
def opens (fits : Char → Bool) : List Glyph → Bool
  | [] => true
  | .char c :: _ => fits c
  | .slot s :: _ => begins s fits
  | .tail :: _ => false

/-- White space at the front is left out. No text of a value begins with any. -/
def skipBlanks : List Glyph → List Glyph
  | .char c :: q => if isBlank c then skipBlanks q else .char c :: q
  | q => q

/-- What can be left behind a fixed text, or nothing if that is not clear. -/
def readText : List Char → List Glyph → Option (List (List Glyph))
  | [], q => some [q]
  | _ :: _, [] => some []
  | c :: text, .char d :: q => if c = d then readText text q else some []
  | c :: _, .slot s :: _ => if begins s (· != c) then some [] else none
  | c :: _, .tail :: _ => if continuesName c then none else some []

/-- A fixed text where a name stands. A text that is no longer than the name leaves the end of it. -/
def readKeyword (text : List Char) : List Glyph → Option (List (List Glyph))
  | .slot .name :: q =>
    if opens (stops .name) q then
      match text.dropWhile continuesName with
      | [] => some [q, .tail :: q]
      | rest => readText rest q
    else none
  | _ => none

/-- White space, at least one character. -/
def readSpace : List Glyph → Option (List (List Glyph))
  | .char c :: q => if isBlank c then some [skipBlanks q] else some []
  | _ => some []

/-- What is left behind as many characters as a name can have. -/
def readName : List Glyph → Option (List (List Glyph))
  | .char c :: q => if continuesName c then readName q else some [.char c :: q]
  | q => if opens (stops .name) q then some [q] else none

/-- The characters that a number or a quoted text has to begin with. -/
def accepts : Slot → Char → Bool
  | .integer, c | .number, c => isDigit c || c == '-'
  | .amount, c | .frames, c => isDigit c
  | .name, c => startsName c
  | .quoted, c => c == '"' || c == '\''
  | _, _ => true

/-- A slot where something else stands than a text for it. -/
def readOther (s : Slot) (q : List Glyph) : Option (List (List Glyph)) :=
  if s ≠ .integers ∧ opens (fun c => !accepts s c) q then some []
  else if s = .name then readName q
  else if s = .resource ∨ s = .sign then
    if s.meanings.all fun word => readText word.1.toList q = some [] then some [] else none
  else none

/-- A slot. Where a text for the same slot stands, this is what it takes. -/
def readSlot (s : Slot) : List Glyph → Option (List (List Glyph))
  | .slot t :: q => if s = t ∧ opens (stops s) q then some [q] else readOther s (.slot t :: q)
  | q => readOther s q

/-- What can be left behind a piece, or nothing if that is not clear. -/
def readPiece : Piece → List Glyph → Option (List (List Glyph))
  | .text text, q => (readText text.toList q).or (readKeyword text.toList q)
  | .gap, q => some [skipBlanks q]
  | .space, q => readSpace q
  | .slot s, q => readSlot s q

/-- Whether none of the texts can have the shape of the pieces. -/
def apart : List Piece → List Glyph → Bool
  | [], q => !q.isEmpty
  | piece :: more, q =>
    match readPiece piece q with
    | some rests => rests.all (apart more)
    | none => false

/-- The rest of a line behind a piece, if the piece is there. -/
def rest? : Piece → List Char → Option (List Char)
  | .text text, cs => Slot.dropFront? text.toList cs
  | .gap, cs => some (trimStart cs)
  | .space, [] => none
  | .space, c :: cs => if isBlank c then some (trimStart cs) else none
  | .slot s, cs => (s.take? cs).map (·.2)

/-- One of the possible rests is the rest, if there is one. -/
def Covers (rests : Option (List (List Glyph))) (rest : Option (List Char)) : Prop :=
  ∀ qs, rests = some qs → ∀ cs, rest = some cs → ∃ q ∈ qs, Renders q cs

lemma dropFront?_eq_some {front cs rest : List Char} :
    Slot.dropFront? front cs = some rest ↔ cs = front ++ rest := by
  constructor
  · intro h
    induction front generalizing cs with
    | nil => cases h; rfl
    | cons c more ih =>
      cases cs with
      | nil => cases h
      | cons d cs =>
        rw [Slot.dropFront?] at h
        split at h
        · next hcd => rw [hcd, ih h, List.cons_append]
        · cases h
  · rintro rfl
    exact dropFront?_append front rest

lemma opens_renders {fits : Char → Bool} {q : List Glyph} (h : opens fits q = true) {c : Char}
    {more : List Char} (hq : Renders q (c :: more)) : fits c = true := by
  generalize htext : c :: more = cs at hq
  cases hq with
  | nil => cases htext
  | char d hq => cases htext; exact h
  | slot s v hv hq =>
    obtain ⟨d, others, hd, -⟩ := (solid_written s v hv).first
    rw [hd] at htext
    cases htext
    exact begins_written hv h hd
  | tail d others hd hq => cases h

lemma renders_skipBlanks {q : List Glyph} {cs : List Char} (hq : Renders q cs) :
    Renders (skipBlanks q) (trimStart cs) := by
  induction hq with
  | nil => exact .nil
  | char c hq ih =>
    cases hc : isBlank c with
    | true =>
      rw [skipBlanks, if_pos hc, trimStart, List.dropWhile_cons_of_pos hc]
      exact ih
    | false =>
      have hne : ¬ isBlank c = true := by simp [hc]
      rw [skipBlanks, if_neg hne, trimStart, List.dropWhile_cons_of_neg hne]
      exact .char c hq
  | slot s v hv hq ih =>
    obtain ⟨c, more, htext, hc⟩ := (solid_written s v hv).first
    have hkept : ∀ rest, trimStart ((written s v).toList ++ rest) = (written s v).toList ++ rest := by
      intro rest
      rw [htext, List.cons_append, trimStart, List.dropWhile_cons_of_neg (by simp [hc])]
    rw [skipBlanks, hkept]
    · exact .slot s v hv hq
    · simp
  | tail c more hc hq ih =>
    have hblank := (visible_of_continuesName hc).not_blank
    rw [skipBlanks, trimStart, List.dropWhile_cons_of_neg (by simp [hblank])]
    · exact .tail c more hc hq
    · simp

lemma readText_covers (text : List Char) {q : List Glyph} {cs : List Char} (hq : Renders q cs) :
    Covers (readText text q) (Slot.dropFront? text cs) := by
  induction text generalizing q cs with
  | nil =>
    intro qs hqs rest hrest
    cases hqs
    cases hrest
    exact ⟨q, List.mem_singleton_self q, hq⟩
  | cons c text ih =>
    intro qs hqs rest hrest
    rw [dropFront?_eq_some] at hrest
    cases hq with
    | nil => cases hrest
    | char d hq =>
      cases hrest
      rw [readText, if_pos rfl] at hqs
      exact ih hq qs hqs rest (dropFront?_append text rest)
    | slot s v hv hq =>
      rw [readText] at hqs
      split at hqs
      · next h =>
        obtain ⟨d, others, hd, -⟩ := (solid_written s v hv).first
        have hne := begins_written hv h hd
        rw [hd] at hrest
        obtain ⟨rfl, -⟩ := List.cons.inj hrest
        simp at hne
      · cases hqs
    | tail d others hd hq =>
      obtain ⟨rfl, -⟩ := List.cons.inj hrest
      rw [readText, if_pos hd] at hqs
      cases hqs

lemma name_span {q : List Glyph} {name rest : List Char} (hopens : opens (stops .name) q = true)
    (hq : Renders q rest) (hname : ∀ c ∈ name, continuesName c = true) :
    (name ++ rest).takeWhile continuesName = name ∧ (name ++ rest).dropWhile continuesName = rest := by
  have hstop : ∀ c more, rest = c :: more → continuesName c = false := by
    rintro c more rfl
    simpa [stops] using opens_renders hopens hq
  have hspan := span_append hname hstop
  rw [List.span_eq_takeWhile_dropWhile] at hspan
  exact Prod.mk.inj hspan

lemma continues_of_isName {text : String} (h : IsName text) :
    text.toList ≠ [] ∧ ∀ c ∈ text.toList, continuesName c = true := by
  obtain ⟨c, more, htext, hc, hmore⟩ := h
  rw [htext]
  refine ⟨by simp, fun d hd => ?_⟩
  obtain rfl | hd := List.mem_cons.mp hd
  · simp [continuesName, hc]
  · exact hmore d hd

lemma readKeyword_covers (text : List Char) {q : List Glyph} {cs : List Char} (hq : Renders q cs) :
    Covers (readKeyword text q) (Slot.dropFront? text cs) := by
  intro qs hqs rest hrest
  rw [dropFront?_eq_some] at hrest
  unfold readKeyword at hqs
  split at hqs
  · next q =>
    cases hq with | slot _ v hv hq =>
    obtain ⟨-, hname⟩ := continues_of_isName hv
    split_ifs at hqs with hopens
    obtain ⟨-, hdrop⟩ := name_span hopens hq hname
    change v.toList ++ _ = text ++ rest at hrest
    rw [hrest, List.dropWhile_append] at hdrop
    split at hqs
    · -- the text is a front of the name, and the end of the name is left
      next hall =>
      cases hqs
      rw [hall, List.isEmpty_nil, if_pos rfl] at hdrop
      have hsplit := List.takeWhile_append_dropWhile (p := continuesName) (l := rest)
      rw [hdrop] at hsplit
      cases hleft : rest.takeWhile continuesName with
      | nil =>
        rw [hleft, List.nil_append] at hsplit
        exact ⟨q, List.mem_cons_self, hsplit ▸ hq⟩
      | cons c more =>
        have hc : continuesName c = true :=
          List.all_eq_true.mp List.all_takeWhile c (by rw [hleft]; exact List.mem_cons_self)
        rw [hleft, List.cons_append] at hsplit
        exact ⟨.tail :: q, by simp, hsplit ▸ .tail c more hc hq⟩
    · -- the text goes on behind the name
      next hmore =>
      have hne : (text.dropWhile continuesName).isEmpty = false := by simpa using hmore
      rw [hne, if_neg (by simp)] at hdrop
      exact readText_covers _ hq qs hqs rest (dropFront?_eq_some.mpr hdrop.symm)
  · cases hqs

lemma readSpace_covers {q : List Glyph} {cs : List Char} (hq : Renders q cs) :
    Covers (readSpace q) (rest? .space cs) := by
  intro qs hqs rest hrest
  cases hq with
  | nil => cases hrest
  | char c hq =>
    cases hc : isBlank c with
    | true =>
      rw [readSpace, if_pos hc] at hqs
      rw [rest?, if_pos hc] at hrest
      cases hqs
      cases hrest
      exact ⟨_, List.mem_singleton_self _, renders_skipBlanks hq⟩
    | false =>
      rw [rest?, hc, if_neg (by simp)] at hrest
      cases hrest
  | slot s v hv hq =>
    obtain ⟨c, more, htext, hc⟩ := (solid_written s v hv).first
    rw [htext, List.cons_append, rest?, hc, if_neg (by simp)] at hrest
    cases hrest
  | tail c more hc hq =>
    have hblank := (visible_of_continuesName hc).not_blank
    rw [rest?, hblank, if_neg (by simp)] at hrest
    cases hrest

lemma readName_covers {q : List Glyph} {cs : List Char} (hq : Renders q cs) :
    Covers (readName q) (some (cs.dropWhile continuesName)) := by
  have hend : ∀ {q cs}, Renders q cs → opens (stops .name) q = true →
      cs.dropWhile continuesName = cs := by
    intro q cs hq hopens
    have hnone : ∀ c ∈ ([] : List Char), continuesName c = true := by simp
    simpa using (name_span hopens hq hnone).2
  intro qs hqs rest hrest
  cases hrest
  induction hq generalizing qs with
  | nil => cases hqs; exact ⟨[], by simp, .nil⟩
  | char c hq ih =>
    cases hc : continuesName c with
    | true =>
      rw [readName, if_pos hc] at hqs
      rw [List.dropWhile_cons_of_pos hc]
      exact ih qs hqs
    | false =>
      rw [readName, hc, if_neg (by simp)] at hqs
      rw [List.dropWhile_cons_of_neg (by simp [hc])]
      cases hqs
      exact ⟨_, List.mem_singleton_self _, .char c hq⟩
  | slot s v hv hq ih =>
    rw [readName] at hqs
    · split_ifs at hqs with hopens
      cases hqs
      rw [hend (.slot s v hv hq) hopens]
      exact ⟨_, List.mem_singleton_self _, .slot s v hv hq⟩
    · simp
  | tail c more hc hq ih => cases hqs

lemma takeSome?_first {fits : Char → Bool} {c : Char} {more : List Char}
    {found : List Char × List Char} (h : Slot.takeSome? fits (c :: more) = some found) :
    fits c = true := by
  unfold Slot.takeSome? at h
  rw [List.span_eq_takeWhile_dropWhile] at h
  cases hc : fits c with
  | true => rfl
  | false =>
    rw [List.takeWhile_cons_of_neg (by simp [hc])] at h
    cases h

lemma takeInteger?_first {c : Char} {more : List Char} {found : List Char × List Char}
    (h : Slot.takeInteger? (c :: more) = some found) : (isDigit c || c == '-') = true := by
  rw [Slot.takeInteger?.eq_def] at h
  split at h
  · next heq => cases heq; simp
  · simp [takeSome?_first h]

lemma take?_nil {s : Slot} (hs : s ≠ .integers) : s.take? [] = none := by
  cases s <;> first
    | contradiction
    | rfl

lemma accepts_of_take? {s : Slot} {c : Char} {more : List Char} {found : List Char × List Char}
    (h : s.take? (c :: more) = some found) : accepts s c = true := by
  cases s with
  | integer => exact takeInteger?_first h
  | number =>
    simp only [Slot.take?, Slot.takeNumber?, Option.bind_eq_bind, Option.bind_eq_some_iff] at h
    obtain ⟨whole, hwhole, -⟩ := h
    exact takeInteger?_first hwhole
  | amount => exact takeSome?_first h
  | frames => exact takeSome?_first h
  | name =>
    rw [Slot.take?, Slot.takeName?] at h
    split_ifs at h with hc
    exact hc
  | quoted =>
    rw [Slot.take?, Slot.takeQuoted?] at h
    split_ifs at h with hc
    simpa [accepts] using hc
  | _ => rfl

lemma takeWord?_eq_none {words : List String} {cs : List Char}
    (h : ∀ word ∈ words, Slot.dropFront? word.toList cs = none) : Slot.takeWord? words cs = none := by
  induction words with
  | nil => rfl
  | cons word more ih =>
    rw [Slot.takeWord?, h word List.mem_cons_self]
    exact ih fun w hw => h w (List.mem_cons_of_mem word hw)

lemma readOther_covers (s : Slot) {q : List Glyph} {cs : List Char} (hq : Renders q cs) :
    Covers (readOther s q) (rest? (.slot s) cs) := by
  intro qs hqs rest hrest
  obtain ⟨⟨text, _⟩, htake, rfl⟩ := Option.map_eq_some_iff.mp hrest
  unfold readOther at hqs
  split_ifs at hqs with hfirst hname hword hnone
  · -- the first character does not fit
    cases hqs
    obtain ⟨hs, hopens⟩ := hfirst
    cases cs with
    | nil =>
      rw [take?_nil hs] at htake
      cases htake
    | cons c more =>
      have hc := opens_renders hopens hq
      rw [accepts_of_take? htake] at hc
      cases hc
  · -- a name takes as much as it can
    subst hname
    cases cs with
    | nil => cases htake
    | cons c more =>
      rw [Slot.take?, Slot.takeName?] at htake
      split_ifs at htake with hc
      rw [List.span_eq_takeWhile_dropWhile] at htake
      cases htake
      have hcontinues : continuesName c = true := by simp [continuesName, hc]
      refine readName_covers hq qs hqs _ ?_
      rw [List.dropWhile_cons_of_pos hcontinues]
  · -- none of the words is there
    cases hqs
    have habsent : ∀ word ∈ s.meanings.map (·.1), Slot.dropFront? word.toList cs = none := by
      intro word hmem
      obtain ⟨meaning, hmeaning, rfl⟩ := List.mem_map.mp hmem
      have hfails := of_decide_eq_true (List.all_eq_true.mp hnone meaning hmeaning)
      cases hdrop : Slot.dropFront? meaning.1.toList cs with
      | none => rfl
      | some left =>
        obtain ⟨q', hq', -⟩ := readText_covers meaning.1.toList hq [] hfails left hdrop
        cases hq'
    have htakes : s.take? cs = Slot.takeWord? (s.meanings.map (·.1)) cs := by
      obtain rfl | rfl := hword <;> rfl
    rw [htakes, takeWord?_eq_none habsent] at htake
    cases htake

lemma readSlot_covers (s : Slot) {q : List Glyph} {cs : List Char} (hq : Renders q cs) :
    Covers (readSlot s q) (rest? (.slot s) cs) := by
  intro qs hqs rest hrest
  unfold readSlot at hqs
  split at hqs
  · next t q =>
    split_ifs at hqs with hsame
    · -- the same slot takes the text that stands there
      obtain ⟨rfl, hopens⟩ := hsame
      cases hqs
      cases hq with | @slot _ v hv _ behind hq =>
      have hstops : Stops s behind := by
        rintro c more rfl
        exact opens_renders hopens hq
      rw [rest?, take?_written s v hv _ hstops] at hrest
      cases hrest
      exact ⟨q, List.mem_singleton_self q, hq⟩
    · exact readOther_covers s hq qs hqs rest hrest
  · exact readOther_covers s hq qs hqs rest hrest

lemma readPiece_covers (piece : Piece) {q : List Glyph} {cs : List Char} (hq : Renders q cs) :
    Covers (readPiece piece q) (rest? piece cs) := by
  cases piece with
  | text text =>
    intro qs hqs
    rw [readPiece, Option.or_eq_some_iff] at hqs
    obtain hqs | ⟨-, hqs⟩ := hqs
    · exact readText_covers text.toList hq qs hqs
    · exact readKeyword_covers text.toList hq qs hqs
  | gap =>
    intro qs hqs rest hrest
    cases hqs
    cases hrest
    exact ⟨_, List.mem_singleton_self _, renders_skipBlanks hq⟩
  | space => exact readSpace_covers hq
  | slot s => exact readSlot_covers s hq

lemma match?_of_rest?_none {piece : Piece} {cs : List Char} (more : List Piece)
    (h : rest? piece cs = none) : Pieces.match? (piece :: more) cs = none := by
  cases piece with
  | text text =>
    rw [rest?] at h
    rw [Pieces.match?, h, Option.bind_none]
  | gap => cases h
  | space =>
    cases cs with
    | nil => rfl
    | cons c rest =>
      rw [rest?] at h
      split_ifs at h with hc
      rw [Pieces.match?]
      simp [hc]
  | slot s =>
    rw [rest?, Option.map_eq_none_iff] at h
    rw [Pieces.match?, h]

lemma match?_of_rest?_some {piece : Piece} {cs rest : List Char} {more : List Piece}
    (h : rest? piece cs = some rest) (hmore : Pieces.match? more rest = none) :
    Pieces.match? (piece :: more) cs = none := by
  cases piece with
  | text text =>
    rw [rest?] at h
    rw [Pieces.match?, h, Option.bind_some, hmore]
  | gap =>
    cases h
    exact hmore
  | space =>
    cases cs with
    | nil => cases h
    | cons c cs =>
      rw [rest?] at h
      split_ifs at h with hc
      cases h
      rw [Pieces.match?]
      simp [hc, hmore]
  | slot s =>
    obtain ⟨⟨text, left⟩, htake, rfl⟩ := Option.map_eq_some_iff.mp h
    rw [Pieces.match?, htake]
    simp only [hmore, Option.map_none]

/-- Forms that are apart from the texts do not match any of them. -/
theorem match?_of_apart {pieces : List Piece} {q : List Glyph} {cs : List Char}
    (h : apart pieces q = true) (hq : Renders q cs) : Pieces.match? pieces cs = none := by
  induction pieces generalizing q cs with
  | nil =>
    cases hq with
    | nil => cases h
    | char c hq => rfl
    | slot s v hv hq =>
      obtain ⟨c, more, htext, -⟩ := (solid_written s v hv).first
      rw [htext]
      rfl
    | tail c more hc hq => rfl
  | cons piece more ih =>
    cases hrest : rest? piece cs with
    | none => exact match?_of_rest?_none more hrest
    | some rest =>
      rw [apart] at h
      split at h
      · next rests hpiece =>
        obtain ⟨q', hmem, hq'⟩ := readPiece_covers piece hq rests hpiece rest hrest
        exact match?_of_rest?_some hrest (ih (List.all_eq_true.mp h q' hmem) hq')
      · cases h

end Microworlds.Proofs

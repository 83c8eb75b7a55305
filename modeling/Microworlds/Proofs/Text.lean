import Microworlds.Text.Lines
import Mathlib.Data.List.Basic
import Mathlib.Data.List.TakeDrop

/-!
# Characters, trimming and pieces

The characters that numbers and names are written with are visible: none of them is white space, so
trimming keeps them. A text that is put together from pieces with marks between them falls into the
same pieces again.
-/

namespace Microworlds.Proofs

open Text

/-- From `!` up to `~`. -/
def Visible (c : Char) : Prop :=
  0x21 ≤ c.toNat ∧ c.toNat ≤ 0x7E

lemma Visible.not_blank {c : Char} (h : Visible c) : isBlank c = false := by
  obtain ⟨hlow, hhigh⟩ := h
  simp only [isBlank, Bool.or_eq_false_iff, Bool.and_eq_false_iff, beq_eq_false_iff_ne,
    decide_eq_false_iff_not, UInt32.le_iff_toNat_le, ne_eq, ← UInt32.toNat_inj]
  simp
  omega

lemma isDigit_iff {c : Char} : c.isDigit = true ↔ 48 ≤ c.toNat ∧ c.toNat ≤ 57 := by
  simp [Char.isDigit, UInt32.le_iff_toNat_le]

lemma visible_of_isDigit {c : Char} (h : c.isDigit = true) : Visible c := by
  rw [isDigit_iff] at h
  unfold Visible
  omega

lemma text_isDigit {c : Char} (h : c.isDigit = true) : Text.isDigit c = true := by
  have hrange : 0x0030 ≤ c.val ∧ c.val ≤ 0x0039 := by
    rw [isDigit_iff] at h
    simpa [UInt32.le_iff_toNat_le] using h
  simp [Text.isDigit, digitRanges, hrange]

lemma digitValue?_of_isDigit {c : Char} (h : c.isDigit = true) :
    digitValue? c = some (c.toNat - '0'.toNat) := by
  have hrange : '0' ≤ c ∧ c ≤ '9' := by
    rw [isDigit_iff] at h
    simpa [Char.le_def, UInt32.le_iff_toNat_le] using h
  rw [digitValue?, if_pos hrange]

lemma visible_of_continuesName {c : Char} (h : continuesName c = true) : Visible c := by
  simp only [continuesName, startsName, Bool.or_eq_true, Bool.and_eq_true, decide_eq_true_eq,
    beq_iff_eq, Char.le_def, UInt32.le_iff_toNat_le] at h
  obtain ((h | h) | rfl) | h := h
  · simp at h
    unfold Visible
    omega
  · simp at h
    unfold Visible
    omega
  · exact ⟨by decide, by decide⟩
  · simp at h
    unfold Visible
    omega

/-- A line that begins and ends with a character that is no white space. -/
structure Solid (text : List Char) : Prop where
  first : ∃ c more, text = c :: more ∧ isBlank c = false
  last : ∃ more c, text = more ++ [c] ∧ isBlank c = false
  oneLine : '\n' ∉ text

lemma Solid.of_forall {text : List Char} (hne : text ≠ []) (h : ∀ c ∈ text, isBlank c = false) :
    Solid text := by
  obtain ⟨c, more, hfirst⟩ := List.exists_cons_of_ne_nil hne
  obtain ⟨init, d, hlast⟩ := (List.eq_nil_or_concat' text).resolve_left hne
  exact ⟨⟨c, more, hfirst, h c (by simp [hfirst])⟩, ⟨init, d, hlast, h d (by simp [hlast])⟩,
    fun hline => by cases h _ hline⟩

lemma Solid.of_all {text : List Char} (hne : text ≠ [])
    (h : (text.all fun c => !isBlank c) = true) : Solid text :=
  .of_forall hne (by simpa using h)

lemma trim_of_ends {text init more : List Char} {c d : Char} (hfirst : text = c :: more)
    (hc : isBlank c = false) (hlast : text = init ++ [d]) (hd : isBlank d = false) :
    trim text = text := by
  have hstart : trimStart text = text := by
    rw [hfirst, trimStart, List.dropWhile_cons_of_neg (by simp [hc])]
  rw [trim, hstart, trimEnd, hlast, List.reverse_append, List.reverse_singleton,
    List.singleton_append, List.dropWhile_cons_of_neg (by simp [hd])]
  simp

lemma trim_of_solid {text : List Char} (h : Solid text) : trim text = text := by
  obtain ⟨⟨c, more, hfirst, hc⟩, ⟨init, d, hlast, hd⟩, -⟩ := h
  exact trim_of_ends hfirst hc hlast hd

lemma trimmed_of_solid {text : String} (h : Solid text.toList) : trimmed text = text := by
  rw [trimmed, trim_of_solid h, String.ofList_toList]

lemma solid_of_trim {text : List Char} (hne : text ≠ []) (h : trim text = text)
    (hline : '\n' ∉ text) : Solid text := by
  have hlength : (trimStart text).length = text.length := by
    apply Nat.le_antisymm
    · exact (List.dropWhile_suffix isBlank).length_le
    · have hend := ((List.dropWhile_suffix isBlank (l := (trimStart text).reverse))).length_le
      have htrim := congrArg List.length h
      rw [trim, trimEnd, List.length_reverse] at htrim
      rw [List.length_reverse] at hend
      omega
  have hstart : trimStart text = text :=
    (List.dropWhile_suffix isBlank).eq_of_length hlength
  refine ⟨?_, ?_, hline⟩
  · obtain ⟨c, more, rfl⟩ := List.exists_cons_of_ne_nil hne
    refine ⟨c, more, rfl, ?_⟩
    cases hc : isBlank c with
    | false => rfl
    | true =>
      have hshort := (List.dropWhile_suffix isBlank (l := more)).length_le
      have hsame := congrArg List.length hstart
      rw [trimStart, List.dropWhile_cons_of_pos hc, List.length_cons] at hsame
      omega
  · obtain ⟨init, d, rfl⟩ := (List.eq_nil_or_concat' text).resolve_left hne
    refine ⟨init, d, rfl, ?_⟩
    cases hd : isBlank d with
    | false => rfl
    | true =>
      rw [trim, hstart, trimEnd, List.reverse_append, List.reverse_singleton,
        List.singleton_append, List.dropWhile_cons_of_pos hd] at h
      have hshort := (List.dropWhile_suffix isBlank (l := init.reverse)).length_le
      have hsame := congrArg List.length h
      simp only [List.length_reverse, List.length_append, List.length_singleton] at hsame hshort
      omega

lemma pieces_ne_nil (mark : Char) (text : List Char) : pieces mark text ≠ [] := by
  cases text with
  | nil => simp [pieces]
  | cons c rest =>
    unfold pieces
    split
    · simp
    · split <;> simp

lemma pieces_append (mark : Char) (a b : List Char) :
    pieces mark (a ++ mark :: b) = pieces mark a ++ pieces mark b := by
  induction a with
  | nil => simp [pieces]
  | cons c rest ih =>
    by_cases hc : c = mark
    · simp [pieces, hc, ih]
    · obtain ⟨piece, more, hrest⟩ := List.exists_cons_of_ne_nil (pieces_ne_nil mark rest)
      simp [pieces, hc, ih, hrest]

lemma pieces_of_not_mem {mark : Char} {line : List Char} (h : mark ∉ line) :
    pieces mark line = [line] := by
  induction line with
  | nil => rfl
  | cons c rest ih =>
    have hc : c ≠ mark := fun e => h (e ▸ List.mem_cons_self)
    have hrest : mark ∉ rest := fun hm => h (List.mem_cons_of_mem c hm)
    simp [pieces, hc, ih hrest]

lemma not_mem_of_mem_pieces {mark : Char} {text line : List Char} (h : line ∈ pieces mark text) :
    mark ∉ line := by
  induction text generalizing line with
  | nil =>
    rw [pieces, List.mem_singleton] at h
    simp [h]
  | cons c rest ih =>
    by_cases hc : c = mark
    · rw [pieces, if_pos hc, List.mem_cons] at h
      obtain rfl | h := h
      · simp
      · exact ih h
    · obtain ⟨piece, more, hrest⟩ := List.exists_cons_of_ne_nil (pieces_ne_nil mark rest)
      simp only [pieces, hc, if_false, hrest, List.mem_cons] at h ih
      obtain rfl | h := h
      · simpa [Ne.symm hc] using ih (.inl rfl)
      · exact ih (.inr h)

lemma length_pieces (mark : Char) (text : List Char) :
    (pieces mark text).length = text.count mark + 1 := by
  induction text with
  | nil => rfl
  | cons c rest ih =>
    by_cases hc : c = mark
    · simp [pieces, hc, ih]
    · obtain ⟨piece, more, hrest⟩ := List.exists_cons_of_ne_nil (pieces_ne_nil mark rest)
      rw [hrest] at ih
      simpa [pieces, hc, hrest] using ih

lemma pieces_intercalate {mark : Char} {lines : List (List Char)} (hne : lines ≠ [])
    (h : ∀ line ∈ lines, mark ∉ line) : pieces mark ([mark].intercalate lines) = lines := by
  induction lines with
  | nil => contradiction
  | cons line more ih =>
    have hline := h line List.mem_cons_self
    cases more with
    | nil => simpa [List.intercalate] using pieces_of_not_mem hline
    | cons next more =>
      have htext : [mark].intercalate (line :: next :: more) =
          line ++ mark :: [mark].intercalate (next :: more) := by
        simp [List.intercalate]
      rw [htext, pieces_append, pieces_of_not_mem hline,
        ih (by simp) fun l hl => h l (List.mem_cons_of_mem line hl)]
      rfl

lemma mem_intercalate {mark : Char} {lines : List (List Char)} {p : Char → Prop} (hmark : p mark)
    (h : ∀ line ∈ lines, ∀ c ∈ line, p c) : ∀ c ∈ [mark].intercalate lines, p c := by
  induction lines with
  | nil => simp [List.intercalate]
  | cons line more ih =>
    have hline := h line List.mem_cons_self
    have hmore := ih fun l hl => h l (List.mem_cons_of_mem line hl)
    cases more with
    | nil => simpa [List.intercalate] using hline
    | cons next more =>
      have htext : [mark].intercalate (line :: next :: more) =
          line ++ mark :: [mark].intercalate (next :: more) := by
        simp [List.intercalate]
      intro c hc
      rw [htext, List.mem_append, List.mem_cons] at hc
      obtain hc | rfl | hc := hc
      · exact hline c hc
      · exact hmark
      · exact hmore c hc

end Microworlds.Proofs

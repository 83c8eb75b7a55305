import Microworlds.Proofs.Statement.Forms

/-!
# Forms that no line has both

Two forms are compared from left to right, as long as they take the same from a line. They are
disjoint if at some place the one needs a character there that the other one cannot have. Unlike
`apart`, which looks at the canonical texts of a form, `disjoint` is about every line.
-/

namespace Microworlds.Proofs

open Text

/-- What a form takes from a line, a fixed text in single characters. -/
inductive Atom where
  | char (c : Char)
  | gap
  | space
  | slot (s : Slot)
  deriving DecidableEq

def atoms : List Piece → List Atom
  | [] => []
  | .text text :: more => text.toList.map .char ++ atoms more
  | .gap :: more => .gap :: atoms more
  | .space :: more => .space :: atoms more
  | .slot s :: more => .slot s :: atoms more

/-- Whether a line is taken to its end. -/
inductive Has : List Atom → List Char → Prop where
  | nil : Has [] []
  | char (c : Char) {a : List Atom} {rest : List Char} (h : Has a rest) :
    Has (.char c :: a) (c :: rest)
  | gap {a : List Atom} {cs : List Char} (h : Has a (trimStart cs)) : Has (.gap :: a) cs
  | space {a : List Atom} {c : Char} {rest : List Char} (hc : isBlank c = true)
    (h : Has a (trimStart rest)) : Has (.space :: a) (c :: rest)
  | slot {s : Slot} {a : List Atom} {cs text rest : List Char}
    (htake : s.take? cs = some (text, rest)) (h : Has a rest) : Has (.slot s :: a) cs

lemma has_chars {text rest : List Char} {a : List Atom} (h : Has a rest) :
    Has (text.map .char ++ a) (text ++ rest) := by
  induction text with
  | nil => exact h
  | cons c more ih => exact .char c ih

lemma has_of_match? {pieces : List Piece} {cs : List Char}
    (h : (Pieces.match? pieces cs).isSome = true) : Has (atoms pieces) cs := by
  induction pieces generalizing cs with
  | nil =>
    cases cs with
    | nil => exact .nil
    | cons c more => cases h
  | cons piece more ih =>
    cases hrest : rest? piece cs with
    | none =>
      rw [match?_of_rest?_none more hrest] at h
      cases h
    | some rest =>
      have hmore : Has (atoms more) rest := by
        refine ih ?_
        cases hfound : Pieces.match? more rest with
        | none =>
          rw [match?_of_rest?_some hrest hfound] at h
          cases h
        | some found => rfl
      cases piece with
      | text text =>
        rw [dropFront?_eq_some.1 hrest]
        exact has_chars hmore
      | gap =>
        cases hrest
        exact .gap hmore
      | space =>
        cases cs with
        | nil => cases hrest
        | cons c cs =>
          rw [rest?] at hrest
          split_ifs at hrest with hc
          cases hrest
          exact .space hc hmore
      | slot s =>
        obtain ⟨⟨text, left⟩, htake, rfl⟩ := Option.map_eq_some_iff.1 hrest
        exact .slot htake hmore

/-- Whether something has to be there. -/
def needy : Atom → Bool
  | .gap | .slot .integers => false
  | _ => true

/-- Whether no line goes on with a name. -/
def avoidsName : List Atom → Bool
  | [] | .space :: _ => true
  | .char c :: _ => !continuesName c
  | .gap :: a => avoidsName a
  | .slot _ :: _ => false

/-- What is left of a fixed text behind a name that stands at its front. -/
def afterName : List Atom → List Atom
  | .char c :: a => if continuesName c then afterName a else .char c :: a
  | a => a

/-- The characters that a slot needs one of, if they are few. -/
def firsts : Slot → List Char
  | .quoted => ['"', '\'']
  | s => s.meanings.filterMap (·.1.toList.head?)

/-- Whether the one slot needs a character that the other one cannot begin with. -/
def clash (s t : Slot) : Bool :=
  !(firsts s).isEmpty && (firsts s).all fun c => !accepts t c

/-- Whether it is clear that no line has both. A slot takes the front of a fixed text that it
accepts: a name as much as it can, a slot with a few words one of them. The number bounds the
steps. -/
def disjoint : Nat → List Atom → List Atom → Bool
  | 0, _, _ => false
  | _ + 1, [], b => b.any needy
  | _ + 1, a, [] => a.any needy
  | n + 1, .gap :: a, .gap :: b => disjoint n a b
  | n + 1, .gap :: a, .space :: b => disjoint n a b
  | n + 1, .space :: a, .gap :: b => disjoint n a b
  | n + 1, .space :: a, .space :: b => disjoint n a b
  | n + 1, .gap :: a, .char c :: b => !isBlank c && disjoint n a (.char c :: b)
  | _ + 1, .space :: _, .char c :: _ => !isBlank c
  | n + 1, .char c :: a, .char d :: b => c != d || disjoint n a b
  | n + 1, .slot s :: a, .slot t :: b => if s = t then disjoint n a b else clash s t || clash t s
  | n + 1, .slot s :: a, .char c :: b =>
    if !accepts s c then true
    else if s = .name then avoidsName (afterName b) && disjoint n a (afterName b)
    else !s.meanings.isEmpty && s.meanings.all fun word =>
      disjoint n (word.1.toList.map .char ++ a) (.char c :: b)
  | n + 1, .char c :: a, b => disjoint n b (.char c :: a)
  | _ + 1, _, _ => false

lemma has_nil {a : List Atom} (h : Has a []) : a.any needy = false := by
  generalize hcs : ([] : List Char) = cs at h
  induction h with
  | nil => rfl
  | char c h => cases hcs
  | gap h ih =>
    subst hcs
    exact ih rfl
  | space hc h => cases hcs
  | @slot s a cs text rest htake h ih =>
    subst hcs
    by_cases hs : s = .integers
    · subst hs
      cases htake
      exact ih rfl
    · rw [take?_nil hs] at htake
      cases htake

lemma takeWord?_eq_some {words : List String} {cs text rest : List Char}
    (h : Slot.takeWord? words cs = some (text, rest)) :
    ∃ word ∈ words, cs = word.toList ++ rest := by
  induction words with
  | nil => cases h
  | cons word more ih =>
    rw [Slot.takeWord?] at h
    split at h
    · next hdrop =>
      cases h
      exact ⟨word, List.mem_cons_self, dropFront?_eq_some.1 hdrop⟩
    · obtain ⟨other, hother, hcs⟩ := ih h
      exact ⟨other, List.mem_cons_of_mem _ hother, hcs⟩

lemma word_of_take? {s : Slot} (hs : s.meanings.isEmpty = false) {cs text rest : List Char}
    (h : s.take? cs = some (text, rest)) : ∃ word ∈ s.meanings, cs = word.1.toList ++ rest := by
  have htake : Slot.takeWord? (s.meanings.map (·.1)) cs = some (text, rest) := by
    cases s <;> first | exact h | cases hs
  obtain ⟨word, hword, hcs⟩ := takeWord?_eq_some htake
  obtain ⟨meaning, hmeaning, rfl⟩ := List.mem_map.1 hword
  exact ⟨meaning, hmeaning, hcs⟩

lemma trimStart_of_blank {c : Char} (hc : isBlank c = true) (rest : List Char) :
    trimStart (c :: rest) = trimStart rest :=
  List.dropWhile_cons_of_pos hc

lemma trimStart_of_dark {c : Char} (hc : isBlank c = false) (rest : List Char) :
    trimStart (c :: rest) = c :: rest :=
  List.dropWhile_cons_of_neg (by simp [hc])

lemma mem_firsts {s : Slot} (hs : (firsts s).isEmpty = false) {c : Char} {more : List Char}
    {found : List Char × List Char} (h : s.take? (c :: more) = some found) : c ∈ firsts s := by
  by_cases hq : s = .quoted
  · subst hq
    simpa [accepts, firsts] using accepts_of_take? h
  · have hfirsts : firsts s = s.meanings.filterMap (·.1.toList.head?) := by
      rw [firsts]
      exact hq
    have hsome : s.meanings.isEmpty = false := by
      cases hm : s.meanings with
      | nil => rw [hfirsts, hm] at hs; cases hs
      | cons word more => rfl
    have hspelled : ∀ word ∈ s.meanings, word.1.toList ≠ [] := by
      cases s <;> simp [Slot.meanings]
    obtain ⟨word, hword, hcs⟩ := word_of_take? hsome h
    cases htext : word.1.toList with
    | nil => exact absurd htext (hspelled word hword)
    | cons d text =>
      rw [htext] at hcs
      cases hcs
      rw [hfirsts]
      exact List.mem_filterMap.2 ⟨word, hword, by rw [htext, List.head?_cons]⟩

lemma not_both_of_clash {s t : Slot} (h : clash s t = true) {a b : List Atom} {cs : List Char}
    (ha : Has (.slot s :: a) cs) (hb : Has (.slot t :: b) cs) : False := by
  cases ha with | slot hs _ => cases hb with | slot ht _ =>
  rw [clash, Bool.and_eq_true, Bool.not_eq_true'] at h
  obtain ⟨hfew, hall⟩ := h
  cases cs with
  | nil =>
    rw [take?_nil (by rintro rfl; cases hfew)] at hs
    cases hs
  | cons c more =>
    have hno := List.all_eq_true.1 hall c (mem_firsts hfew hs)
    rw [accepts_of_take? ht] at hno
    cases hno

lemma continuesName_of_blank {c : Char} (hc : isBlank c = true) : continuesName c = false := by
  refine Bool.eq_false_iff.2 fun hname => ?_
  rw [(visible_of_continuesName hname).not_blank] at hc
  cases hc

lemma dropWhile_of_avoidsName {a : List Atom} {cs : List Char} (h : avoidsName a = true)
    (ha : Has a cs) : cs.dropWhile continuesName = cs := by
  induction ha with
  | nil => rfl
  | char c _ _ =>
    rw [avoidsName, Bool.not_eq_true'] at h
    exact List.dropWhile_cons_of_neg (by simp [h])
  | @gap a cs _ ih =>
    cases cs with
    | nil => rfl
    | cons c rest =>
      cases hc : isBlank c with
      | true => exact List.dropWhile_cons_of_neg (by simp [continuesName_of_blank hc])
      | false =>
        rw [trimStart_of_dark hc] at ih
        exact ih h
  | space hc _ _ => exact List.dropWhile_cons_of_neg (by simp [continuesName_of_blank hc])
  | slot _ _ _ => cases h

lemma has_afterName {b : List Atom} {cs : List Char} (h : avoidsName (afterName b) = true)
    (hb : Has b cs) : Has (afterName b) (cs.dropWhile continuesName) := by
  fun_induction afterName b generalizing cs with
  | case1 c b hc ih =>
    cases hb with | char _ hb =>
    rw [List.dropWhile_cons_of_pos hc]
    exact ih h hb
  | case2 c b hc => rwa [dropWhile_of_avoidsName h hb]
  | case3 b => rwa [dropWhile_of_avoidsName h hb]

lemma rest_of_take?_name {cs text rest : List Char} (h : Slot.name.take? cs = some (text, rest)) :
    rest = cs.dropWhile continuesName := by
  cases cs with
  | nil => cases h
  | cons c more =>
    rw [Slot.take?, Slot.takeName?] at h
    split_ifs at h with hc
    have hgo : continuesName c = true := by simp [continuesName, hc]
    rw [List.dropWhile_cons_of_pos hgo]
    rw [List.span_eq_takeWhile_dropWhile] at h
    cases h
    rfl

/-- What both take of a line is the same as long as they are compared, by induction on the steps. -/
lemma not_both {n : Nat} {a b : List Atom} {cs : List Char} (h : disjoint n a b = true)
    (ha : Has a cs) (hb : Has b cs) : False := by
  fun_induction disjoint n a b generalizing cs with
  | case1 => cases h
  | case2 n b =>
    cases ha
    rw [has_nil hb] at h
    cases h
  | case3 n a =>
    cases hb
    rw [has_nil ha] at h
    cases h
  -- white space, and what is behind it
  | case4 n a b ih =>
    cases ha with | gap ha => cases hb with | gap hb => exact ih h ha hb
  | case5 n a b ih =>
    cases hb with | space hc hb => cases ha with | gap ha =>
    rw [trimStart_of_blank hc] at ha
    exact ih h ha hb
  | case6 n a b ih =>
    cases ha with | space hc ha => cases hb with | gap hb =>
    rw [trimStart_of_blank hc] at hb
    exact ih h ha hb
  | case7 n a b ih =>
    cases ha with | space hc ha => cases hb with | space _ hb => exact ih h ha hb
  | case8 n a c b ih =>
    rw [Bool.and_eq_true, Bool.not_eq_true'] at h
    cases hb with | char _ hb => cases ha with | gap ha =>
    rw [trimStart_of_dark h.1] at ha
    exact ih h.2 ha (.char c hb)
  | case9 n a c b =>
    cases hb with | char _ hb => cases ha with | space hc ha =>
    rw [hc] at h
    cases h
  -- the same character
  | case10 n c a d b ih =>
    cases ha with | char _ ha => cases hb with | char _ hb =>
    rw [bne_self_eq_false, Bool.false_or] at h
    exact ih h ha hb
  -- the same slot, and two slots
  | case11 n a t b ih =>
    cases ha with | slot hs ha => cases hb with | slot ht hb =>
    rw [hs] at ht
    cases ht
    exact ih h ha hb
  | case12 n s a t b hne =>
    rw [Bool.or_eq_true] at h
    exact h.elim (not_both_of_clash · ha hb) (not_both_of_clash · hb ha)
  -- a slot where a fixed text begins
  | case13 n s a c b haccepts =>
    cases hb with | char _ hb => cases ha with | slot hs ha =>
    rw [accepts_of_take? hs] at haccepts
    cases haccepts
  | case14 n a c b haccepts ih =>
    rw [Bool.and_eq_true] at h
    cases hb with | char _ hb => cases ha with | slot hs ha =>
    have hc : continuesName c = true := by
      have : startsName c = true := by simpa [accepts] using haccepts
      simp [continuesName, this]
    rw [rest_of_take?_name hs, List.dropWhile_cons_of_pos hc] at ha
    exact ih h.2 ha (has_afterName h.1 hb)
  | case15 n s a c b haccepts hname ih =>
    rw [Bool.and_eq_true, Bool.not_eq_true'] at h
    cases ha with | slot hs ha =>
    obtain ⟨word, hword, hcs⟩ := word_of_take? h.1 hs
    rw [hcs] at hb
    exact ih word (List.all_eq_true.1 h.2 word hword) (has_chars ha) hb
  -- the other way round
  | case16 n c a b _ _ ih => exact ih h hb ha
  | case17 => cases h

/-- Whether no line has the shape of both rules. -/
def disjointRules {κ : Type} (r s : Rule κ) : Bool :=
  r.forms.all fun f => s.forms.all fun g => disjoint 100 (atoms f.pieces) (atoms g.pieces)

/-- Whether a line has the shape of a rule. -/
def Suits {κ : Type} (rule : Rule κ) (said : List Char) : Prop :=
  (rule.match? said).isSome = true

instance {κ : Type} (rule : Rule κ) (said : List Char) : Decidable (Suits rule said) :=
  inferInstanceAs (Decidable (_ = true))

lemma suits_iff {κ : Type} {rule : Rule κ} {said : List Char} :
    Suits rule said ↔
      ∃ pieces ∈ rule.forms.map (·.pieces), (Pieces.match? pieces said).isSome = true := by
  simp [Suits, Rule.match?, Form.match?, List.findSome?_isSome_iff]

lemma has_of_suits {κ : Type} {rule : Rule κ} {said : List Char} (h : Suits rule said) :
    ∃ form ∈ rule.forms, Has (atoms form.pieces) said := by
  obtain ⟨pieces, hpieces, hmatch⟩ := suits_iff.1 h
  obtain ⟨form, hform, rfl⟩ := List.mem_map.1 hpieces
  exact ⟨form, hform, has_of_match? hmatch⟩

/-- The comparison of two rules is right for every line. -/
theorem not_both_of_disjointRules {κ : Type} {r s : Rule κ} (h : disjointRules r s = true)
    {said : List Char} (hr : Suits r said) (hs : Suits s said) : False := by
  obtain ⟨f, hf, hasf⟩ := has_of_suits hr
  obtain ⟨g, hg, hasg⟩ := has_of_suits hs
  exact not_both (List.all_eq_true.1 (List.all_eq_true.1 h f hf) g hg) hasf hasg

end Microworlds.Proofs

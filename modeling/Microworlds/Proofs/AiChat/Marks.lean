import Mathlib.Data.List.Infix
import Microworlds.Proofs.Reached

/-!
# The marks of longer prompts

Text that is put before or behind a prompt lowers neither its specificity nor its context. A word in the
prompt is still a word in the longer text: only the form of a capital sigma depends on what stands around
it, and no word that counts has a sigma.
-/

namespace Microworlds.Proofs

open AiChat Text

/-! ### Lower case around a text -/

/-- A character with the two small forms of sigma taken as one. -/
def softened (c : Char) : Char :=
  if c = 'ς' then 'σ' else c

variable {word text : List Char} {words : List String}

lemma softened_lowercaseAt (before : List Char) (c : Char) (after : List Char) :
    (lowercaseAt before c after).map softened = (lowercaseChar c).map softened := by
  unfold lowercaseAt
  split
  · next hsigma =>
    have hsmall : (lowercaseChar 'Σ').map softened = ['σ'] := by decide +kernel
    rw [hsigma, hsmall]
    split <;> rfl
  · rfl

lemma softened_lowercaseFrom (before text : List Char) :
    (lowercaseFrom before text).map softened = (text.flatMap lowercaseChar).map softened := by
  induction text generalizing before with
  | nil => rfl
  | cons c after ih =>
    rw [lowercaseFrom, List.map_append, softened_lowercaseAt, ih, List.flatMap_cons, List.map_append]

lemma softened_lowercase_append (text more : List Char) :
    (lowercase (text ++ more)).map softened =
      (lowercase text).map softened ++ (lowercase more).map softened := by
  unfold lowercase
  rw [softened_lowercaseFrom, softened_lowercaseFrom, softened_lowercaseFrom, List.flatMap_append,
    List.map_append]

/-- At the end of a word a capital sigma gets another form than before a letter. -/
example : lowercase ['Α', 'Σ'] = ['α', 'ς'] ∧ lowercase ['Α', 'Σ', 'Α'] = ['α', 'σ', 'α'] := by
  decide +kernel

/-! ### Words in a text -/

lemma containsWord_iff : containsWord word text = true ↔ word <:+: text := by
  induction text with
  | nil => rw [containsWord, List.isEmpty_iff, List.infix_nil]
  | cons c rest ih =>
    rw [containsWord, Bool.or_eq_true, List.isPrefixOf_iff_prefix, ih, List.infix_cons_iff]

lemma containsAny_iff :
    containsAny text words = true ↔ ∃ word ∈ words, word.toList <:+: text := by
  unfold containsAny
  rw [List.any_eq_true]
  simp only [containsWord_iff]

/-- Neither small form of sigma stands in a word. -/
def NoSigma (word : List Char) : Prop :=
  'σ' ∉ word ∧ 'ς' ∉ word

instance (word : List Char) : Decidable (NoSigma word) :=
  inferInstanceAs (Decidable (_ ∧ _))

lemma map_softened (h : 'ς' ∉ word) : word.map softened = word := by
  have hsame : ∀ c ∈ word, softened c = c := by
    intro c hc
    apply if_neg
    rintro rfl
    exact h hc
  rw [List.map_congr_left hsame, List.map_id']

lemma infix_softened (h : NoSigma word) : word <:+: text.map softened ↔ word <:+: text := by
  constructor
  · rintro ⟨before, after, htext⟩
    obtain ⟨start, rest, rfl, hstart, -⟩ := List.map_eq_append_iff.mp htext.symm
    obtain ⟨front, middle, rfl, -, hmiddle⟩ := List.map_eq_append_iff.mp hstart
    have hfinal : 'ς' ∉ middle := by
      intro hmem
      apply h.1
      rw [← hmiddle]
      exact List.mem_map.mpr ⟨'ς', hmem, rfl⟩
    rw [map_softened hfinal] at hmiddle
    subst hmiddle
    exact ⟨front, rest, rfl⟩
  · intro hinfix
    have hmapped := hinfix.map softened
    rwa [map_softened h.2] at hmapped

lemma containsAny_longer (hwords : ∀ word ∈ words, NoSigma word.toList) (before after : List Char)
    (h : containsAny (lowercase text) words = true) :
    containsAny (lowercase (before ++ text ++ after)) words = true := by
  obtain ⟨word, hword, hinfix⟩ := containsAny_iff.mp h
  refine containsAny_iff.mpr ⟨word, hword, ?_⟩
  rw [← infix_softened (hwords word hword)] at hinfix ⊢
  rw [softened_lowercase_append, softened_lowercase_append]
  exact hinfix.trans (List.infix_append _ _ _)

/-! ### Sums of points -/

section Points

variable {base first second third : UInt32} {a b c a' b' c' : Bool}

lemma toNat_points (amount : UInt32) (sign : Bool) :
    (points amount sign).toNat = if sign then amount.toNat else 0 := by
  unfold points
  split <;> rfl

lemma toNat_mark (hfit : base.toNat + first.toNat + second.toNat + third.toNat < 2 ^ 32)
    (a b c : Bool) :
    (min 100 (base + points first a + points second b + points third c)).toNat =
      min 100 (base.toNat + (if a then first.toNat else 0) + (if b then second.toNat else 0) +
        if c then third.toNat else 0) := by
  have hmin : ∀ sum : UInt32, (min 100 sum).toNat = min 100 sum.toNat := by
    intro sum
    change (if 100 ≤ sum then 100 else sum).toNat = _
    split
    · next hle => exact (Nat.min_eq_left hle).symm
    · next hlt => exact (Nat.min_eq_right (Nat.le_of_not_le hlt)).symm
  rw [hmin, UInt32.toNat_add, UInt32.toNat_add, UInt32.toNat_add, toNat_points, toNat_points,
    toNat_points]
  cases a <;> cases b <;> cases c <;> simp <;> omega

lemma mark_mono (hfit : base.toNat + first.toNat + second.toNat + third.toNat < 2 ^ 32)
    (ha : a → a') (hb : b → b') (hc : c → c') :
    min 100 (base + points first a + points second b + points third c) ≤
      min 100 (base + points first a' + points second b' + points third c') := by
  have hworth : ∀ (amount : UInt32) {sign sign' : Bool}, (sign → sign') →
      (if sign then amount.toNat else 0) ≤ if sign' then amount.toNat else 0 := by
    intro amount sign sign' hsign
    split
    · next htrue => rw [if_pos (hsign htrue)]
    · exact Nat.zero_le _
  have hfirst := hworth first ha
  have hsecond := hworth second hb
  have hthird := hworth third hc
  rw [UInt32.le_iff_toNat_le, toNat_mark hfit, toNat_mark hfit]
  omega

lemma mark_range (hfit : base.toNat + first.toNat + second.toNat + third.toNat < 2 ^ 32)
    (hbase : base ≤ 100) (a b c : Bool) :
    let mark := min 100 (base + points first a + points second b + points third c)
    base ≤ mark ∧ mark ≤ 100 := by
  have hleast : base.toNat ≤ 100 := hbase
  have hmark := toNat_mark hfit a b c
  refine ⟨UInt32.le_iff_toNat_le.mpr ?_, UInt32.le_iff_toNat_le.mpr ?_⟩
  · rw [hmark]
    omega
  · rw [hmark]
    exact Nat.min_le_left _ _

end Points

/-! ### Prompts -/

lemma noSigma_domainWords : ∀ word ∈ domainWords, NoSigma word.toList := by decide +kernel

lemma noSigma_actionWords : ∀ word ∈ actionWords, NoSigma word.toList := by decide +kernel

lemma noSigma_constraintWords : ∀ word ∈ constraintWords, NoSigma word.toList := by decide +kernel

lemma noSigma_goalWords : ∀ word ∈ goalWords, NoSigma word.toList := by decide +kernel

variable (before prompt after : String)

lemma toList_around :
    (before ++ prompt ++ after).toList = before.toList ++ prompt.toList ++ after.toList := by
  rw [String.toList_append, String.toList_append]

lemma specificity_le :
    (assess prompt).specificity ≤ (assess (before ++ prompt ++ after)).specificity := by
  unfold assess
  apply mark_mono (by decide)
  · intro hdigit
    rw [toList_around, List.any_append, List.any_append, hdigit, Bool.or_true, Bool.true_or]
  · rw [toList_around]
    exact containsAny_longer noSigma_domainWords _ _
  · rw [toList_around]
    exact containsAny_longer noSigma_actionWords _ _

lemma context_le : (assess prompt).context ≤ (assess (before ++ prompt ++ after)).context := by
  unfold assess
  apply mark_mono (by decide)
  · intro hlong
    have hlength : 50 < prompt.toList.length := of_decide_eq_true hlong
    rw [toList_around, List.length_append, List.length_append]
    apply decide_eq_true
    omega
  · rw [toList_around]
    exact containsAny_longer noSigma_constraintWords _ _
  · rw [toList_around]
    exact containsAny_longer noSigma_goalWords _ _

/-- Added text does not lower a mark. Whatever is put before and behind a prompt, its specificity and
its context do not fall. The marks of every prompt lie between the points that all prompts have and
100. -/
theorem added_text_never_lowers :
    (∀ before prompt after : String,
      (assess prompt).specificity ≤ (assess (before ++ prompt ++ after)).specificity ∧
        (assess prompt).context ≤ (assess (before ++ prompt ++ after)).context) ∧
    ∀ prompt : String,
      (50 ≤ (assess prompt).clarity ∧ (assess prompt).clarity ≤ 100) ∧
      (30 ≤ (assess prompt).specificity ∧ (assess prompt).specificity ≤ 100) ∧
      40 ≤ (assess prompt).context ∧ (assess prompt).context ≤ 100 := by
  constructor
  · intro before prompt after
    exact ⟨specificity_le before prompt after, context_le before prompt after⟩
  · intro prompt
    refine ⟨?_, ?_, ?_⟩
    · exact mark_range (by decide) (by decide) _ _ _
    · exact mark_range (by decide) (by decide) _ _ _
    · exact mark_range (by decide) (by decide) _ _ _

/-- A word that is vague costs clarity, so text can lower this mark. -/
example : (assess ("?" ++ "what")).clarity < (assess "?").clarity := by decide +kernel

end Microworlds.Proofs

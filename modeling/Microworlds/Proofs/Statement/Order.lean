import Mathlib.Data.List.Rotate
import Microworlds.Language
import Microworlds.Proofs.Statement.Disjoint

/-!
# The order of the rules

In every table a line has the shape of one rule at most, but for the two rules that plot
something: `plot y = x` is an equation by the one, and plots the expression `y = x` by the other
one. So the order in which the rules are tried counts for these two only.
-/

namespace Microworlds.Proofs

open Text

/-- The two rules that have lines in common, in the order in which they are tried. -/
def Overlap (r s : Rule Command) : Prop :=
  r.name = "plot.equation" ∧ s.name = "plot.expression"

instance (r s : Rule Command) : Decidable (Overlap r s) :=
  inferInstanceAs (Decidable (_ ∧ _))

lemma rulesOf_disjoint (scenario : Scenario) :
    (rulesOf scenario).Pairwise fun r s => disjointRules r s = true ∨ Overlap r s := by
  cases scenario <;> decide +kernel

lemma rulesOf_overlap (scenario : Scenario) (said : List Char) :
    (rulesOf scenario).Pairwise fun r s => Suits r said → Suits s said → Overlap r s :=
  (rulesOf_disjoint scenario).imp fun h hr hs =>
    h.resolve_left fun hdisjoint => not_both_of_disjointRules hdisjoint hr hs

lemma overlap_of_perm {scenario : Scenario} {table : List (Rule Command)}
    (hperm : table.Perm (rulesOf scenario)) (horder : table.Pairwise fun r s => ¬ Overlap s r)
    (said : List Char) : table.Pairwise fun r s => Suits r said → Suits s said → Overlap r s := by
  have heither : table.Pairwise fun r s =>
      Suits r said → Suits s said → Overlap r s ∨ Overlap s r :=
    (hperm.pairwise_iff fun h hs hr => (h hr hs).symm).2
      ((rulesOf_overlap scenario said).imp fun h hr hs => .inl (h hr hs))
  exact heither.imp₂ (fun _ _ h hno hr hs => (h hr hs).resolve_right hno) horder

/-- Whether no other rule of a table takes the line away from the rule. -/
def Foremost (table : List (Rule Command)) (rule : Rule Command) (said : List Char) : Prop :=
  rule.name = "plot.expression" → ∀ s ∈ table, s.name = "plot.equation" → ¬ Suits s said

lemma first?_eq_some {table : List (Rule Command)} {said : List Char}
    (hpair : table.Pairwise fun r s => Suits r said → Suits s said → Overlap r s)
    {rule : Rule Command} (hrule : rule ∈ table) (hforemost : Foremost table rule said)
    {found : Except LiteralError Command} (hfound : rule.match? said = some found) :
    Rule.first? table said = some (rule, found) := by
  induction table with
  | nil => cases hrule
  | cons r more ih =>
    rw [List.pairwise_cons] at hpair
    obtain rfl | hmore := List.mem_cons.1 hrule
    · rw [Rule.first?, List.findSome?_cons, hfound, Option.map_some]
    · have hnone : r.match? said = none := by
        by_contra hsome
        have hr : Suits r said := Option.isSome_iff_ne_none.2 hsome
        have hboth := hpair.1 rule hmore hr (by rw [Suits, hfound, Option.isSome_some])
        exact hforemost hboth.2 r List.mem_cons_self hboth.1 hr
      rw [Rule.first?, List.findSome?_cons, hnone, Option.map_none]
      exact ih hpair.2 hmore fun hname s hs => hforemost hname s (List.mem_cons_of_mem r hs)

lemma first?_eq_none {table : List (Rule Command)} {said : List Char}
    (h : ∀ r ∈ table, ¬ Suits r said) : Rule.first? table said = none := by
  refine List.findSome?_eq_none_iff.2 fun r hr => ?_
  rw [Option.map_eq_none_iff]
  exact Option.not_isSome_iff_eq_none.1 (h r hr)

/-- A line that has the shape of some rule has the shape of one that decides about it. -/
lemma exists_foremost {table : List (Rule Command)} {said : List Char}
    (h : ∃ r ∈ table, Suits r said) : ∃ r ∈ table, Suits r said ∧ Foremost table r said := by
  by_cases heq : ∃ r ∈ table, r.name = "plot.equation" ∧ Suits r said
  · obtain ⟨r, hr, hname, hsuits⟩ := heq
    refine ⟨r, hr, hsuits, fun hother => ?_⟩
    rw [hname] at hother
    exact absurd hother (by decide)
  · obtain ⟨r, hr, hsuits⟩ := h
    exact ⟨r, hr, hsuits, fun _ s hs hname hsaid => heq ⟨s, hs, hname, hsaid⟩⟩

/-- What a line says by the rule that decides about it. -/
def decided (rule : Rule Command) (said : List Char) :
    Except LiteralError Command → Except ClassifyError Statement
  | .ok command => .ok ⟨command, rule.name, rule.family, String.ofList said⟩
  | .error cause => .error (.badArgument (String.ofList said) cause)

lemma classify_of_first? {table : List (Rule Command)} {line : String} {rule : Rule Command}
    {found : Except LiteralError Command}
    (h : Rule.first? table (trim line.toList) = some (rule, found)) :
    classify table line = decided rule (trim line.toList) found := by
  rw [classify, h]
  cases found <;> rfl

section Tables

variable {scenario : Scenario} {table : List (Rule Command)}
  (hperm : table.Perm (rulesOf scenario)) (horder : table.Pairwise fun r s => ¬ Overlap s r)

include hperm horder

lemma first?_perm (said : List Char) :
    Rule.first? table said = Rule.first? (rulesOf scenario) said := by
  by_cases hsome : ∃ r ∈ rulesOf scenario, Suits r said
  · obtain ⟨r, hr, hsuits, hforemost⟩ := exists_foremost hsome
    obtain ⟨found, hfound⟩ := Option.isSome_iff_exists.1 hsuits
    have hforemost' : Foremost table r said := fun hname s hs =>
      hforemost hname s (hperm.mem_iff.1 hs)
    rw [first?_eq_some (overlap_of_perm hperm horder said) (hperm.mem_iff.2 hr) hforemost' hfound,
      first?_eq_some (rulesOf_overlap scenario said) hr hforemost hfound]
  · have hnone : ∀ r ∈ rulesOf scenario, ¬ Suits r said := fun r hr hsuits => hsome ⟨r, hr, hsuits⟩
    rw [first?_eq_none hnone, first?_eq_none fun r hr => hnone r (hperm.mem_iff.1 hr)]

lemma classify_perm (line : String) : classify table line = classify (rulesOf scenario) line := by
  rw [classify, classify, first?_perm hperm horder]

end Tables

/-! ### The two rules that plot something -/

lemma equation_pieces : ∀ r ∈ rulesOf .math, r.name = "plot.equation" →
    r.forms.map (·.pieces) =
      [[.text "plot", .space, .text "y", .gap, .text "=", .gap, .slot .formula]] := by
  decide +kernel

lemma expression_pieces : ∀ r ∈ rulesOf .math, r.name = "plot.expression" →
    r.forms.map (·.pieces) = [[.text "plot", .space, .slot .formula]] := by
  decide +kernel

lemma expression_iff {r : Rule Command} (hr : r ∈ rulesOf .math)
    (hname : r.name = "plot.expression") {c : Char} (hc : isBlank c = true) (rest : List Char) :
    Suits r ("plot".toList ++ c :: rest) ↔ trimStart rest ≠ [] ∧ '\n' ∉ trimStart rest := by
  rw [suits_iff, expression_pieces r hr hname]
  simp only [List.mem_singleton, exists_eq_left]
  rw [Pieces.match?, dropFront?_append, Option.bind_some, Pieces.match?, if_pos hc, Pieces.match?,
    Slot.take?]
  by_cases hempty : trimStart rest = []
  · simp [hempty]
  · by_cases hfeed : '\n' ∈ trimStart rest
    · simp [hfeed]
    · simp [hempty, hfeed, Pieces.match?]

lemma equation_front {r : Rule Command} (hr : r ∈ rulesOf .math) (hname : r.name = "plot.equation")
    {said : List Char} (hsuits : Suits r said) :
    ∃ c rest, said = "plot".toList ++ c :: rest ∧ isBlank c = true ∧ trimStart rest ≠ [] := by
  rw [suits_iff, equation_pieces r hr hname] at hsuits
  obtain ⟨pieces, hpieces, hmatch⟩ := hsuits
  rw [List.mem_singleton.1 hpieces] at hmatch
  cases has_of_match? hmatch with | char _ h => cases h with | char _ h =>
  cases h with | char _ h => cases h with | char _ h =>
  cases h with | space hc h =>
  refine ⟨_, _, rfl, hc, ?_⟩
  generalize trimStart _ = behind at h
  cases h
  simp

lemma equation_expression {r s : Rule Command} (hr : r ∈ rulesOf .math) (hs : s ∈ rulesOf .math)
    (hrname : r.name = "plot.equation") (hsname : s.name = "plot.expression") {said : List Char}
    (hsuits : Suits r said) : Suits s said ↔ '\n' ∉ trimStart (said.drop 4) := by
  obtain ⟨c, rest, rfl, hc, hrest⟩ := equation_front hr hrname hsuits
  have hdrop : ("plot".toList ++ c :: rest).drop 4 = c :: rest := rfl
  rw [expression_iff hs hsname hc, hdrop, trimStart_of_blank hc, and_iff_right hrest]

/-- With a line feed before its equals sign, an equation to plot is no expression. -/
theorem equation_without_expression :
    ¬ ∀ line : String, ∀ r ∈ rulesOf .math, r.name = "plot.equation" → Suits r (trim line.toList) →
      ∃ s ∈ rulesOf .math, s.name = "plot.expression" ∧ Suits s (trim line.toList) := by
  intro h
  have hline := h "plot y\n= x"
  revert hline
  decide +kernel

/-- No rule shadows another one. A line has the shape of one rule of a scenario at most, but for
the two rules that plot something; an equation to plot is an expression to plot as well exactly if
there is no line feed behind the word `plot` and its white space. A table with the rules of the
scenario in any order, as long as the equation is tried before the expression, classifies every
line in the same way, and each rule decides about all lines of its shape, the expression about
those that are no equation. -/
theorem no_rule_shadows (scenario : Scenario) (line : String) :
    ((rulesOf scenario).Pairwise fun r s =>
      Suits r (trim line.toList) → Suits s (trim line.toList) → Overlap r s) ∧
    (∀ r ∈ rulesOf .math, ∀ s ∈ rulesOf .math, Overlap r s → Suits r (trim line.toList) →
      (Suits s (trim line.toList) ↔ '\n' ∉ trimStart ((trim line.toList).drop 4))) ∧
    ∀ table : List (Rule Command), table.Perm (rulesOf scenario) →
      table.Pairwise (fun r s => ¬ Overlap s r) →
      classify table line = classify (rulesOf scenario) line ∧
      ∀ r ∈ table, Foremost table r (trim line.toList) →
        ∀ found, r.match? (trim line.toList) = some found →
          classify table line = decided r (trim line.toList) found := by
  refine ⟨rulesOf_overlap scenario _, ?_, ?_⟩
  · intro r hr s hs hoverlap hsuits
    exact equation_expression hr hs hoverlap.1 hoverlap.2 hsuits
  · intro table hperm horder
    refine ⟨classify_perm hperm horder line, ?_⟩
    intro r hr hforemost found hfound
    have hpair := overlap_of_perm hperm horder (trim line.toList)
    exact classify_of_first? (first?_eq_some hpair hr hforemost hfound)

/-- The drawings first, then the plots. -/
theorem rotated_equation_classified :
    ((rulesOf .math).rotate 3).Pairwise (fun r s => ¬ Overlap s r) ∧
      classify ((rulesOf .math).rotate 3) "plot y = x^2" =
        .ok ⟨.math (.plot "x^2"), "plot.equation", "math.plot", "plot y = x^2"⟩ := by
  have horder : ((rulesOf .math).rotate 3).Pairwise (fun r s => ¬ Overlap s r) := by decide +kernel
  have hmem : (rulesOf .math)[1] ∈ (rulesOf .math).rotate 3 :=
    List.mem_rotate.2 (List.getElem_mem _)
  have hforemost : Foremost ((rulesOf .math).rotate 3) (rulesOf .math)[1] "plot y = x^2".toList :=
    fun hname => absurd hname (by decide +kernel)
  have hdecided := ((no_rule_shadows .math "plot y = x^2").2.2 _ (List.rotate_perm _ 3) horder).2
  exact ⟨horder, hdecided _ hmem hforemost (.ok (.math (.plot "x^2"))) rfl⟩

end Microworlds.Proofs

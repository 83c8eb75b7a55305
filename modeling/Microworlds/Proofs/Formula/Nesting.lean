import Microworlds.Proofs.Formula.Parsing

/-!
# How deep formulas may be nested

A formula of the grammar that opens too many levels is refused for that reason and for no other, since
everything up to the place where the levels run out can be read. As a number or a name takes a level as
well, at most 255 brackets, calls, signs and exponents may stand around it.
-/

namespace Microworlds.Proofs

open Formula

/-! ### Derivations that are too deep -/

/-- The reader refuses these tokens, up to where the part ends, because they are nested too deep. -/
def Refuses (reader : PartReader) (part : Part) (yield : List Token) : Prop :=
  ∀ tokens following, bare tokens = yield ++ following → EndsBefore part following →
    reader tokens = .error .tooDeep

/-- What is refused of a derivation, given the reader of what is open one level further in. The rest of a
chain can only be refused if there is a level for it. -/
def IsRefused (levels : Nat) : {part : Part} → Derivation part → Prop
  | .sum, d => levels ≤ d.depth → Refuses (sum (unary levels)) .sum d.yield
  | .sumMore, d => 0 < levels → levels ≤ d.depth → ∀ left bound, d.yield.length ≤ bound →
    Refuses (chain sumOperator? (product (unary levels)) bound left) .sumMore d.yield
  | .product, d => levels ≤ d.depth → Refuses (product (unary levels)) .product d.yield
  | .productMore, d => 0 < levels → levels ≤ d.depth → ∀ left bound, d.yield.length ≤ bound →
    Refuses (chain productOperator? (unary levels) bound left) .productMore d.yield
  | .unary, d => levels ≤ d.depth → Refuses (unary levels) .unary d.yield
  | .power, d => levels < d.depth → Refuses (power (unary levels)) .power d.yield
  | .primary, d => levels < d.depth → Refuses (primary (unary levels)) .primary d.yield

lemma chained_refuses_first {operator? : Token → Option Operator} {operand : PartReader}
    {part inside : Part} {yield more : List Token}
    (hoperand : Refuses operand inside yield)
    (hinside : ∀ following, EndsBefore part following → EndsBefore inside (more ++ following)) :
    Refuses (fun tokens => do
      let (left, rest) ← operand tokens
      chain operator? operand rest.length left rest) part (yield ++ more) := by
  intro tokens following htokens hfollowing
  rw [List.append_assoc] at htokens
  dsimp only
  rw [hoperand tokens _ htokens (hinside following hfollowing)]
  rfl

lemma chained_refuses_more {operator? : Token → Option Operator} {operand : PartReader}
    {part inside : Part} {yield more : List Token} {left : Formula}
    (hoperand : Takes operand inside yield left)
    (hinside : ∀ following, EndsBefore part following → EndsBefore inside (more ++ following))
    (hmore : ∀ bound, more.length ≤ bound → Refuses (chain operator? operand bound left) part more) :
    Refuses (fun tokens => do
      let (left, rest) ← operand tokens
      chain operator? operand rest.length left rest) part (yield ++ more) := by
  intro tokens following htokens hfollowing
  rw [List.append_assoc] at htokens
  obtain ⟨behind, hread, hbehind⟩ := hoperand tokens _ htokens (hinside following hfollowing)
  have hbound : more.length ≤ behind.length := by
    rw [← length_bare, hbehind, List.length_append]
    exact Nat.le_add_right _ _
  dsimp only
  rw [hread]
  exact hmore behind.length hbound behind following hbehind hfollowing

lemma chain_refuses_first {operator? : Token → Option Operator} {operand : PartReader}
    {part inside : Part} {sign : Token} {operator : Operator}
    (hsign : operator? sign = some operator) {yield more : List Token} {left : Formula} {bound : Nat}
    (hoperand : Refuses operand inside yield)
    (hinside : ∀ following, EndsBefore part following → EndsBefore inside (more ++ following)) :
    Refuses (chain operator? operand (bound + 1) left) part (sign :: (yield ++ more)) := by
  intro tokens following htokens hfollowing
  rw [List.cons_append, List.append_assoc] at htokens
  obtain ⟨position, tokens, rfl, htail⟩ := bare_eq_cons htokens
  rw [chain]
  simp only [hsign]
  rw [hoperand tokens _ htail (hinside following hfollowing)]
  rfl

lemma chain_refuses_more {operator? : Token → Option Operator} {operand : PartReader}
    {part inside : Part} {sign : Token} {operator : Operator}
    (hsign : operator? sign = some operator)
    {yield more : List Token} {left right : Formula} {bound : Nat}
    (hoperand : Takes operand inside yield right)
    (hinside : ∀ following, EndsBefore part following → EndsBefore inside (more ++ following))
    (hmore : Refuses (chain operator? operand bound (.binary operator left right)) part more) :
    Refuses (chain operator? operand (bound + 1) left) part (sign :: (yield ++ more)) := by
  intro tokens following htokens hfollowing
  rw [List.cons_append, List.append_assoc] at htokens
  obtain ⟨position, tokens, rfl, htail⟩ := bare_eq_cons htokens
  obtain ⟨behind, hread, hbehind⟩ := hoperand tokens _ htail (hinside following hfollowing)
  rw [chain]
  simp only [hsign]
  rw [hread]
  exact hmore behind following hbehind hfollowing

lemma bracketed_refuses {inner : PartReader} {yield : List Token}
    (h : Refuses (sum inner) .sum yield) {tokens : List Placed} {following : List Token}
    (htokens : bare tokens = yield ++ .closing :: following) :
    Formula.bracketed inner tokens = .error .tooDeep := by
  rw [Formula.bracketed, h tokens _ htokens (endsBefore_cons (by decide))]
  rfl

lemma power_refuses_base {inner : PartReader} {tokens : List Placed} {error : Error}
    (hbase : primary inner tokens = .error error) : power inner tokens = .error error := by
  rw [power, hbase]
  rfl

lemma power_refuses_exponent {inner : PartReader} {tokens behind : List Placed} {position : Nat}
    {base : Formula} {error : Error}
    (hbase : primary inner tokens = .ok (base, ⟨.caret, position⟩ :: behind))
    (hexponent : inner behind = .error error) : power inner tokens = .error error := by
  rw [power, hbase]
  change (inner behind >>= fun read => pure (Formula.binary .power base read.1, read.2)) = _
  rw [hexponent]
  rfl

lemma first_deep {levels first second : Nat} (h : levels ≤ max first second) :
    levels ≤ first ∨ first < levels ∧ levels ≤ second := by
  omega

section Refused

variable {levels : Nat}

lemma sum_isRefused {first : Derivation .product} {more : Derivation .sumMore}
    (hfirst : IsRefused levels first) (hmore : IsRefused levels more) :
    IsRefused levels (.sum first more) := by
  intro hdepth
  -- what comes before the first place that is too deep is taken
  obtain hdeep | ⟨hshallow, hdeep⟩ := first_deep hdepth
  · exact chained_refuses_first (hfirst hdeep) fun _ => endsBefore_sumMore more
  · exact chained_refuses_more (derivation_isTaken first levels hshallow)
      (fun _ => endsBefore_sumMore more) (hmore (Nat.zero_lt_of_lt hshallow) hdeep first.tree)

lemma sumEnd_isRefused : IsRefused levels .sumEnd :=
  fun hlevels hdepth => absurd hlevels (Nat.not_lt.2 hdepth)

lemma sumMore_isRefused {sign : SumSign} {operand : Derivation .product}
    {more : Derivation .sumMore} (hoperand : IsRefused levels operand)
    (hmore : IsRefused levels more) : IsRefused levels (.sumMore sign operand more) := by
  intro hlevels hdepth left bound hbound
  cases bound with
  | zero => cases hbound
  | succ bound =>
    have hlength := length_more_le hbound
    obtain hdeep | ⟨hshallow, hdeep⟩ := first_deep hdepth
    · exact chain_refuses_first (sumOperator?_token sign) (hoperand hdeep)
        fun _ => endsBefore_sumMore more
    · exact chain_refuses_more (sumOperator?_token sign)
        (derivation_isTaken operand levels hshallow) (fun _ => endsBefore_sumMore more)
        (hmore hlevels hdeep _ bound hlength)

lemma product_isRefused {first : Derivation .unary} {more : Derivation .productMore}
    (hfirst : IsRefused levels first) (hmore : IsRefused levels more) :
    IsRefused levels (.product first more) := by
  intro hdepth
  obtain hdeep | ⟨hshallow, hdeep⟩ := first_deep hdepth
  · exact chained_refuses_first (hfirst hdeep) fun _ => endsBefore_productMore more
  · exact chained_refuses_more (derivation_isTaken first levels hshallow)
      (fun _ => endsBefore_productMore more)
      (hmore (Nat.zero_lt_of_lt hshallow) hdeep first.tree)

lemma productEnd_isRefused : IsRefused levels .productEnd :=
  fun hlevels hdepth => absurd hlevels (Nat.not_lt.2 hdepth)

lemma productMore_isRefused {sign : ProductSign} {operand : Derivation .unary}
    {more : Derivation .productMore} (hoperand : IsRefused levels operand)
    (hmore : IsRefused levels more) : IsRefused levels (.productMore sign operand more) := by
  intro hlevels hdepth left bound hbound
  cases bound with
  | zero => cases hbound
  | succ bound =>
    have hlength := length_more_le hbound
    obtain hdeep | ⟨hshallow, hdeep⟩ := first_deep hdepth
    · exact chain_refuses_first (productOperator?_token sign) (hoperand hdeep)
        fun _ => endsBefore_productMore more
    · exact chain_refuses_more (productOperator?_token sign)
        (derivation_isTaken operand levels hshallow) (fun _ => endsBefore_productMore more)
        (hmore hlevels hdeep _ bound hlength)

/-- Without a level even a number is nested too deep. -/
lemma unary_isRefused {d : Derivation .unary} (h : ∀ levels, IsRefused (levels + 1) d) :
    ∀ levels, IsRefused levels d
  | 0 => fun _ _ _ _ _ => rfl
  | levels + 1 => h levels

lemma minus_isRefused {inner : Derivation .unary} (h : IsRefused levels inner) :
    IsRefused (levels + 1) (.minus inner) := by
  intro hdepth tokens following htokens hfollowing
  obtain ⟨position, tokens, rfl, hinner⟩ := bare_eq_cons htokens
  rw [unary, h (Nat.le_of_succ_le_succ hdepth) tokens following hinner hfollowing]
  rfl

lemma plus_isRefused {inner : Derivation .unary} (h : IsRefused levels inner) :
    IsRefused (levels + 1) (.plus inner) := by
  intro hdepth tokens following htokens hfollowing
  obtain ⟨position, tokens, rfl, hinner⟩ := bare_eq_cons htokens
  rw [unary, h (Nat.le_of_succ_le_succ hdepth) tokens following hinner hfollowing]

lemma unsigned_isRefused {power : Derivation .power} (h : IsRefused levels power) :
    IsRefused (levels + 1) (.unsigned power) := by
  intro hdepth tokens following htokens hfollowing
  obtain ⟨token, more, hpower, hstarts⟩ := power_yield_first power
  obtain ⟨position, behind, rfl, -⟩ :=
    bare_eq_cons (htokens.trans (congrArg (· ++ following) hpower))
  rw [unary_power hstarts]
  exact h hdepth _ following htokens hfollowing

lemma plain_isRefused {base : Derivation .primary} (h : IsRefused levels base) :
    IsRefused levels (.plain base) := by
  intro hdepth tokens following htokens hfollowing
  exact power_refuses_base (h hdepth tokens following htokens (hfollowing.mono (by decide)))

lemma raised_isRefused {base : Derivation .primary} {exponent : Derivation .unary}
    (hbase : IsRefused levels base) (hexponent : IsRefused levels exponent) :
    IsRefused levels (.raised base exponent) := by
  intro hdepth tokens following htokens hfollowing
  simp only [Derivation.yield, List.append_assoc, List.cons_append] at htokens
  obtain hdeep | ⟨hshallow, hdeep⟩ := first_deep hdepth
  · exact power_refuses_base (hbase hdeep tokens _ htokens (endsBefore_cons (by decide)))
  · obtain ⟨behind, hread, hbehind⟩ := derivation_isTaken base levels
      (Nat.le_of_lt_succ hshallow) tokens _ htokens (endsBefore_cons (by decide))
    obtain ⟨position, behind, rfl, hinner⟩ := bare_eq_cons hbehind
    exact power_refuses_exponent hread
      (hexponent (Nat.le_of_succ_le_succ hdeep) behind following hinner hfollowing)

lemma number_isRefused (x : Float) : IsRefused levels (.number x) :=
  fun hdepth => absurd hdepth (Nat.not_lt_zero levels)

lemma group_isRefused {inner : Derivation .sum} (h : IsRefused levels inner) :
    IsRefused levels (.group inner) := by
  intro hdepth tokens following htokens _
  simp only [Derivation.yield, List.append_assoc, List.cons_append] at htokens
  obtain ⟨position, tokens, rfl, hinner⟩ := bare_eq_cons htokens
  exact bracketed_refuses (h (Nat.le_of_lt_succ hdepth)) hinner

lemma call_isRefused {word : FunctionWord} {argument : Derivation .sum}
    (h : IsRefused levels argument) : IsRefused levels (.call word argument) := by
  intro hdepth tokens following htokens _
  simp only [Derivation.yield, List.append_assoc, List.cons_append] at htokens
  obtain ⟨position, tokens, rfl, hopening⟩ := bare_eq_cons htokens
  obtain ⟨place, tokens, rfl, hinner⟩ := bare_eq_cons hopening
  simp only [primary, named?_text]
  rw [bracketed_refuses (h (Nat.le_of_lt_succ hdepth)) hinner]
  rfl

lemma constant_isRefused (word : ConstantWord) : IsRefused levels (.constant word) :=
  fun hdepth => absurd hdepth (Nat.not_lt_zero levels)

end Refused

lemma derivation_isRefused {part : Part} (d : Derivation part) (levels : Nat) :
    IsRefused levels d := by
  induction d generalizing levels with
  | sum first more hfirst hmore => exact sum_isRefused (hfirst levels) (hmore levels)
  | sumEnd => exact sumEnd_isRefused
  | sumMore sign operand more hoperand hmore =>
    exact sumMore_isRefused (hoperand levels) (hmore levels)
  | product first more hfirst hmore => exact product_isRefused (hfirst levels) (hmore levels)
  | productEnd => exact productEnd_isRefused
  | productMore sign operand more hoperand hmore =>
    exact productMore_isRefused (hoperand levels) (hmore levels)
  | minus inner h => exact unary_isRefused (fun levels => minus_isRefused (h levels)) levels
  | plus inner h => exact unary_isRefused (fun levels => plus_isRefused (h levels)) levels
  | unsigned power h =>
    exact unary_isRefused (fun levels => unsigned_isRefused (h levels)) levels
  | plain base h => exact plain_isRefused (h levels)
  | raised base exponent hbase hexponent =>
    exact raised_isRefused (hbase levels) (hexponent levels)
  | number x => exact number_isRefused x
  | group inner h => exact group_isRefused (h levels)
  | call word argument h => exact call_isRefused (h levels)
  | constant word => exact constant_isRefused word

/-! ### The nesting that is refused -/

/-- A formula is refused as too deep exactly if its nesting is 256 or more. Of a text with at most
1024 tokens that are derived as a sum, the reader gives the formula of the derivation if at most 255
brackets, calls, signs and exponents are open at once, and otherwise the error of formulas that are
nested too deep. So 256 levels, which the limit and the text of that error still allow, are refused. -/
theorem parse_refuses_deep (text : String) (d : Derivation .sum)
    (htokens : Tokenizes text.toList d.yield) (hfew : d.yield.length ≤ 1024) :
    (parse text = .error .tooDeep ↔ 256 ≤ d.depth) ∧ (d.depth < 256 → parse text = .ok d.tree) := by
  obtain ⟨placed, hscan, hplaced⟩ := scan_eq_ok.2 ⟨htokens, hfew⟩
  have hparse : parse text = ofTokens placed := by
    rw [parse, hscan]
    rfl
  rw [hparse]
  have hread : d.depth < 256 → ofTokens placed = .ok d.tree :=
    fun hdepth => ofTokens_eq_ok.2 ⟨d, hplaced, hdepth, rfl⟩
  refine ⟨⟨fun hrefused => ?_, fun hdepth => ?_⟩, hread⟩
  · by_contra hshallow
    rw [hread (Nat.lt_of_not_le hshallow)] at hrefused
    cases hrefused
  · rw [ofTokens, derivation_isRefused d maxDepth hdepth placed [] (by simpa using hplaced)
      (endsBefore_nil _)]
    rfl

/-- The number one in so many brackets. -/
def wrapped : Nat → Derivation .sum
  | 0 => .sum (.product (.unsigned (.plain (.number 1))) .productEnd) .sumEnd
  | levels + 1 => .sum (.product (.unsigned (.plain (.group (wrapped levels)))) .productEnd) .sumEnd

@[simp] lemma depth_wrapped (levels : Nat) : (wrapped levels).depth = levels := by
  induction levels with
  | zero => rfl
  | succ levels ih => simp [wrapped, Derivation.depth, ih]

@[simp] lemma length_yield_wrapped (levels : Nat) : (wrapped levels).yield.length = 2 * levels + 1 := by
  induction levels with
  | zero => rfl
  | succ levels ih =>
    simp [wrapped, Derivation.yield, ih]
    omega

/-- The text of the number one in so many brackets. -/
def wrappedText (levels : Nat) : String :=
  String.ofList (List.replicate levels '(' ++ '1' :: List.replicate levels ')')

lemma tokenizes_one {levels : Nat} {tokens : List Token}
    (h : Tokenizes (List.replicate levels ')') tokens) :
    Tokenizes ('1' :: List.replicate levels ')') (.number 1 :: tokens) := by
  cases levels with
  | zero => exact .token rfl rfl h
  | succ levels => exact .token rfl rfl h

lemma tokenizes_closing (levels : Nat) :
    Tokenizes (List.replicate levels ')') (List.replicate levels .closing) := by
  induction levels with
  | zero => exact .done
  | succ levels ih => exact .token rfl rfl ih

lemma yield_wrapped (levels : Nat) :
    (wrapped levels).yield =
      List.replicate levels .opening ++ .number 1 :: List.replicate levels .closing := by
  induction levels with
  | zero => rfl
  | succ levels ih =>
    rw [List.replicate_succ, List.replicate_succ']
    simp [wrapped, Derivation.yield, ih]

lemma tokenizes_wrapped (levels : Nat) :
    Tokenizes (wrappedText levels).toList (wrapped levels).yield := by
  have hopening : ∀ opened, Tokenizes
      (List.replicate opened '(' ++ '1' :: List.replicate levels ')')
      (List.replicate opened .opening ++ .number 1 :: List.replicate levels .closing) := by
    intro opened
    induction opened with
    | zero => exact tokenizes_one (tokenizes_closing levels)
    | succ opened ih => exact .token rfl rfl ih
  rw [wrappedText, String.toList_ofList, yield_wrapped]
  exact hopening levels

/-- 255 brackets around a number are read, and 256 are refused. -/
theorem brackets_refused :
    parse (wrappedText 255) = .ok (wrapped 255).tree ∧
      parse (wrappedText 256) = .error .tooDeep :=
  ⟨(parse_refuses_deep _ (wrapped 255) (tokenizes_wrapped 255) (by simp)).2 (by simp),
    (parse_refuses_deep _ (wrapped 256) (tokenizes_wrapped 256) (by simp)).1.2 (by simp)⟩

end Microworlds.Proofs

import Microworlds.Proofs.Handler
import Microworlds.Proofs.Formula.Grammar
import Mathlib.Data.List.TakeDrop

/-!
# The reader of formulas accepts its grammar

`parse` succeeds exactly if the tokens of a text are few enough and are derived as a sum that opens
few enough levels at once, and what it gives is the formula of that derivation.

Every reader gives a derivation of what it takes, by recursion on the levels that are left. The
other way, the reader of a part takes the tokens of each derivation, by induction on the
derivation: tokens that end the part tell a chain or a power where to stop.
-/

namespace Microworlds.Proofs

open Formula

/-! ### Tokens -/

/-- The tokens of a text. White space is skipped, and each token is as long as it can be. -/
inductive Tokenizes : List Char → List Token → Prop where
  | done : Tokenizes [] []
  | blank {c : Char} {rest : List Char} {tokens : List Token} (hblank : Text.isBlank c = true)
    (hrest : Tokenizes rest tokens) : Tokenizes (c :: rest) tokens
  | token {c : Char} {rest after : List Char} {token : Token} {length : Nat} {tokens : List Token}
    (hdark : Text.isBlank c = false) (htoken : token? c rest = some (token, length, after))
    (hafter : Tokenizes after tokens) : Tokenizes (c :: rest) (token :: tokens)

/-- Tokens without their positions. -/
def bare (tokens : List Placed) : List Token :=
  tokens.map (·.token)

@[simp] lemma bare_nil : bare [] = [] := rfl

@[simp] lemma bare_cons (placed : Placed) (tokens : List Placed) :
    bare (placed :: tokens) = placed.token :: bare tokens := rfl

@[simp] lemma length_bare (tokens : List Placed) : (bare tokens).length = tokens.length :=
  List.length_map _

lemma bare_eq_nil {tokens : List Placed} : bare tokens = [] ↔ tokens = [] :=
  List.map_eq_nil_iff

lemma bare_eq_cons {tokens : List Placed} {token : Token} {more : List Token}
    (h : bare tokens = token :: more) :
    ∃ position rest, tokens = ⟨token, position⟩ :: rest ∧ bare rest = more := by
  obtain ⟨placed, rest, rfl, rfl, hrest⟩ := List.map_eq_cons_iff.1 h
  exact ⟨placed.position, rest, rfl, hrest⟩

lemma span_length_le {p : Char → Bool} (cs : List Char) : (cs.span p).2.length ≤ cs.length := by
  rw [List.span_eq_takeWhile_dropWhile]
  exact (List.dropWhile_suffix p).length_le

lemma numberText_length_le {c : Char} (hc : ((Text.digitValue? c).isSome || c == '.') = true)
    (rest : List Char) : (numberText (c :: rest)).2.length ≤ rest.length := by
  unfold numberText Decimal.digits
  rw [List.span_eq_takeWhile_dropWhile, List.dropWhile_cons]
  by_cases hdigit : (Text.digitValue? c).isSome = true
  · have hle := (List.dropWhile_suffix (l := rest) fun d => (Text.digitValue? d).isSome).length_le
    simp only [hdigit, if_true]
    split
    · rename_i behind heq
      have := span_length_le (p := fun d => (Text.digitValue? d).isSome) behind
      simp only [heq, List.length_cons] at hle
      exact Nat.le_trans this (Nat.le_of_succ_le hle)
    · exact hle
  · obtain rfl : c = '.' := by simpa [hdigit] using hc
    simp only [hdigit, Bool.false_eq_true, if_false]
    exact span_length_le rest

lemma token?_length_le {c : Char} {rest after : List Char} {token : Token} {length : Nat}
    (h : token? c rest = some (token, length, after)) : after.length ≤ rest.length := by
  unfold token? at h
  split_ifs at h with hnumber hname
  · obtain ⟨x, -, hx⟩ := Option.map_eq_some_iff.1 h
    cases hx
    exact numberText_length_le hnumber rest
  · cases h
    exact span_length_le rest
  · obtain ⟨x, -, hx⟩ := Option.map_eq_some_iff.1 h
    cases hx
    exact Nat.le_refl _

lemma scanFrom_tokenizes {bound room position : Nat} {cs : List Char} {placed : List Placed}
    (hbound : cs.length ≤ bound) (h : scanFrom bound room position cs = .ok placed) :
    Tokenizes cs (bare placed) ∧ placed.length ≤ room := by
  fun_induction scanFrom bound room position cs generalizing placed with
  | case1 => cases h; exact ⟨.done, Nat.zero_le _⟩
  | case2 => cases hbound
  | case3 room position bound c rest hblank ih =>
    obtain ⟨hrest, hroom⟩ := ih (Nat.le_of_succ_le_succ hbound) h
    exact ⟨.blank hblank hrest, hroom⟩
  | case4 => cases h
  | case5 => cases h
  | case6 position bound c rest hdark token length after htoken room ih =>
    obtain ⟨more, hmore, h⟩ := bind_eq_ok.1 h
    cases h
    have hafter := Nat.le_trans (token?_length_le htoken) (Nat.le_of_succ_le_succ hbound)
    obtain ⟨hrest, hroom⟩ := ih hafter hmore
    exact ⟨.token (by simpa using hdark) htoken hrest, Nat.succ_le_succ hroom⟩

lemma Tokenizes.scanFrom {cs : List Char} {tokens : List Token} (h : Tokenizes cs tokens) :
    ∀ {bound room : Nat} (position : Nat), cs.length ≤ bound → tokens.length ≤ room →
      ∃ placed, Formula.scanFrom bound room position cs = .ok placed ∧ bare placed = tokens := by
  induction h with
  | done => exact fun position _ _ => ⟨[], by simp [Formula.scanFrom], rfl⟩
  | blank hblank _ ih =>
    intro bound room position hbound hroom
    cases bound with
    | zero => cases hbound
    | succ bound =>
      obtain ⟨placed, hplaced, htokens⟩ :=
        ih (position + 1) (Nat.le_of_succ_le_succ hbound) hroom
      exact ⟨placed, by rw [Formula.scanFrom, if_pos hblank, hplaced], htokens⟩
  | @token c rest after token length tokens hdark htoken _ ih =>
    intro bound room position hbound hroom
    cases bound with
    | zero => cases hbound
    | succ bound =>
      cases room with
      | zero => cases hroom
      | succ room =>
        obtain ⟨placed, hplaced, htokens⟩ := ih (position + length)
          (Nat.le_trans (token?_length_le htoken) (Nat.le_of_succ_le_succ hbound))
          (Nat.le_of_succ_le_succ hroom)
        refine ⟨⟨token, position⟩ :: placed, ?_, by simp [htokens]⟩
        simp only [Formula.scanFrom, hdark, htoken, hplaced, Bool.false_eq_true, if_false]
        rfl

lemma scan_eq_ok {text : String} {tokens : List Token} :
    (∃ placed, scan text = .ok placed ∧ bare placed = tokens) ↔
      Tokenizes text.toList tokens ∧ tokens.length ≤ maxTokens := by
  constructor
  · rintro ⟨placed, hscan, rfl⟩
    rw [length_bare]
    exact scanFrom_tokenizes (Nat.le_of_eq String.length_toList) hscan
  · rintro ⟨htokens, hroom⟩
    exact htokens.scanFrom 0 (Nat.le_of_eq String.length_toList) hroom

/-! ### Readers give derivations -/

/-- The tokens in front of the rest are derived as a part that stands for the formula and opens
fewer levels than the bound. -/
def Derived (part : Part) (tree : Derivation part → Formula) (bound : Nat)
    (tokens : List Placed) (formula : Formula) (rest : List Placed) : Prop :=
  ∃ d : Derivation part, bare tokens = d.yield ++ bare rest ∧ tree d = formula ∧ d.depth < bound

/-- A reader that only takes what is derived. -/
def TakesDerived (part : Part) (tree : Derivation part → Formula) (bound : Nat)
    (reader : PartReader) : Prop :=
  ∀ tokens formula rest, reader tokens = .ok (formula, rest) →
    Derived part tree bound tokens formula rest

/-- What holds of a chain that ends and can be put in front of an operator and an operand holds of
what is read as a chain. -/
lemma chain_reads {operator? : Token → Option Operator} {operand : PartReader}
    (reads : Formula → List Placed → Formula → List Placed → Prop)
    (hend : ∀ left tokens, reads left tokens left tokens)
    (hmore : ∀ {left placed tokens operator right behind formula rest},
      operator? placed.token = some operator → operand tokens = .ok (right, behind) →
        reads (.binary operator left right) behind formula rest →
          reads left (placed :: tokens) formula rest)
    {bound : Nat} {left formula : Formula} {tokens rest : List Placed}
    (h : chain operator? operand bound left tokens = .ok (formula, rest)) :
    reads left tokens formula rest := by
  induction bound generalizing left tokens with
  | zero => cases h; exact hend _ _
  | succ bound ih =>
    cases tokens with
    | nil => cases h; exact hend _ _
    | cons placed tokens =>
      unfold chain at h
      split at h
      · cases h; exact hend _ _
      · rename_i operator hoperator
        obtain ⟨⟨right, behind⟩, hoperand, h⟩ := bind_eq_ok.1 h
        exact hmore hoperator hoperand (ih h)

lemma sumOperator?_eq_some {token : Token} {operator : Operator}
    (h : sumOperator? token = some operator) :
    ∃ sign : SumSign, sign.token = token ∧ sign.operator = operator := by
  cases token <;> cases h
  · exact ⟨.plus, rfl, rfl⟩
  · exact ⟨.minus, rfl, rfl⟩

lemma productOperator?_eq_some {token : Token} {operator : Operator}
    (h : productOperator? token = some operator) :
    ∃ sign : ProductSign, sign.token = token ∧ sign.operator = operator := by
  cases token <;> cases h
  · exact ⟨.times, rfl, rfl⟩
  · exact ⟨.slash, rfl, rfl⟩
  · exact ⟨.percent, rfl, rfl⟩

variable {inner : PartReader} {bound : Nat}

lemma product_takesDerived (hinner : TakesDerived .unary Derivation.tree bound inner) :
    TakesDerived .product Derivation.tree bound (product inner) := by
  intro tokens formula rest h
  obtain ⟨⟨left, behind⟩, hleft, h⟩ := bind_eq_ok.1 h
  obtain ⟨first, htokens, rfl, hfirst⟩ := hinner _ _ _ hleft
  obtain ⟨more, hbehind, rfl, hmore⟩ := chain_reads
    (fun left tokens formula rest =>
      Derived .productMore (fun more => more.tree left) bound tokens formula rest)
    (fun left tokens => ⟨.productEnd, rfl, rfl, Nat.zero_lt_of_lt hfirst⟩)
    (by
      rintro left placed tokens operator right behind formula rest hoperator hoperand
        ⟨more, hbehind, rfl, hmore⟩
      obtain ⟨sign, hsign, rfl⟩ := productOperator?_eq_some hoperator
      obtain ⟨operand, htokens, rfl, hdepth⟩ := hinner _ _ _ hoperand
      exact ⟨.productMore sign operand more, by simp [Derivation.yield, hsign, htokens, hbehind],
        rfl, Nat.max_lt.2 ⟨hdepth, hmore⟩⟩) h
  exact ⟨.product first more, by simp [Derivation.yield, htokens, hbehind], rfl,
    Nat.max_lt.2 ⟨hfirst, hmore⟩⟩

lemma sum_takesDerived (hinner : TakesDerived .unary Derivation.tree bound inner) :
    TakesDerived .sum Derivation.tree bound (sum inner) := by
  have hproduct := product_takesDerived hinner
  intro tokens formula rest h
  obtain ⟨⟨left, behind⟩, hleft, h⟩ := bind_eq_ok.1 h
  obtain ⟨first, htokens, rfl, hfirst⟩ := hproduct _ _ _ hleft
  obtain ⟨more, hbehind, rfl, hmore⟩ := chain_reads
    (fun left tokens formula rest =>
      Derived .sumMore (fun more => more.tree left) bound tokens formula rest)
    (fun left tokens => ⟨.sumEnd, rfl, rfl, Nat.zero_lt_of_lt hfirst⟩)
    (by
      rintro left placed tokens operator right behind formula rest hoperator hoperand
        ⟨more, hbehind, rfl, hmore⟩
      obtain ⟨sign, hsign, rfl⟩ := sumOperator?_eq_some hoperator
      obtain ⟨operand, htokens, rfl, hdepth⟩ := hproduct _ _ _ hoperand
      exact ⟨.sumMore sign operand more, by simp [Derivation.yield, hsign, htokens, hbehind],
        rfl, Nat.max_lt.2 ⟨hdepth, hmore⟩⟩) h
  exact ⟨.sum first more, by simp [Derivation.yield, htokens, hbehind], rfl,
    Nat.max_lt.2 ⟨hfirst, hmore⟩⟩

lemma bracketed_eq_ok {tokens rest : List Placed} {formula : Formula}
    (h : Formula.bracketed inner tokens = .ok (formula, rest)) :
    ∃ position, sum inner tokens = .ok (formula, ⟨.closing, position⟩ :: rest) := by
  obtain ⟨⟨argument, behind⟩, hsum, h⟩ := bind_eq_ok.1 h
  dsimp only at h
  split at h
  · cases h
    exact ⟨_, hsum⟩
  · cases h

lemma function_named {name : String} {function : Function}
    (h : Function.named? name = some function) :
    ∃ word : FunctionWord, word.text = name ∧ word.function = function := by
  unfold Function.named? at h
  split at h <;> cases h
  · exact ⟨.sin, rfl, rfl⟩
  · exact ⟨.cos, rfl, rfl⟩
  · exact ⟨.tan, rfl, rfl⟩
  · exact ⟨.sqrt, rfl, rfl⟩
  · exact ⟨.log, rfl, rfl⟩
  · exact ⟨.ln, rfl, rfl⟩
  · exact ⟨.abs, rfl, rfl⟩
  · exact ⟨.exp, rfl, rfl⟩

lemma constant_named {name : String} {formula : Formula} (h : constant? name = some formula) :
    ∃ word : ConstantWord, word.text = name ∧ word.formula = formula := by
  unfold constant? at h
  split at h <;> cases h
  · exact ⟨.x, rfl, rfl⟩
  · exact ⟨.pi, rfl, rfl⟩
  · exact ⟨.e, rfl, rfl⟩

lemma primary_takesDerived (hinner : TakesDerived .unary Derivation.tree bound inner) :
    TakesDerived .primary Derivation.tree (bound + 1) (primary inner) := by
  have hsum := sum_takesDerived hinner
  intro tokens formula rest h
  unfold primary at h
  split at h
  · rename_i x _ _
    cases h
    exact ⟨.number x, rfl, rfl, Nat.succ_pos bound⟩
  · obtain ⟨position, hread⟩ := bracketed_eq_ok h
    obtain ⟨argument, htokens, rfl, hdepth⟩ := hsum _ _ _ hread
    exact ⟨.group argument, by simp [Derivation.yield, htokens], rfl, Nat.succ_lt_succ hdepth⟩
  · split at h
    · split at h
      · cases h
      · rename_i function hname
        obtain ⟨⟨argument, behind⟩, hargument, h⟩ := bind_eq_ok.1 h
        cases h
        obtain ⟨word, rfl, rfl⟩ := function_named hname
        obtain ⟨position, hread⟩ := bracketed_eq_ok hargument
        obtain ⟨argument, htokens, rfl, hdepth⟩ := hsum _ _ _ hread
        exact ⟨.call word argument, by simp [Derivation.yield, htokens], rfl,
          Nat.succ_lt_succ hdepth⟩
    · split at h
      · rename_i constant hname
        cases h
        obtain ⟨word, rfl, rfl⟩ := constant_named hname
        exact ⟨.constant word, rfl, rfl, Nat.succ_pos bound⟩
      · cases h
  · cases h

lemma power_takesDerived (hinner : TakesDerived .unary Derivation.tree bound inner) :
    TakesDerived .power Derivation.tree (bound + 1) (power inner) := by
  intro tokens formula rest h
  obtain ⟨⟨left, behind⟩, hbase, h⟩ := bind_eq_ok.1 h
  obtain ⟨base, htokens, rfl, hdepth⟩ := primary_takesDerived hinner _ _ _ hbase
  dsimp only at h
  split at h
  · obtain ⟨⟨right, behind⟩, hexponent, h⟩ := bind_eq_ok.1 h
    cases h
    obtain ⟨exponent, hbehind, rfl, hlevels⟩ := hinner _ _ _ hexponent
    exact ⟨.raised base exponent, by simp [Derivation.yield, htokens, hbehind], rfl,
      Nat.max_lt.2 ⟨hdepth, Nat.succ_lt_succ hlevels⟩⟩
  · cases h
    exact ⟨.plain base, htokens, rfl, hdepth⟩

lemma unary_takesDerived (levels : Nat) :
    TakesDerived .unary Derivation.tree levels (unary levels) := by
  induction levels with
  | zero => exact fun _ _ _ h => nomatch h
  | succ levels ih =>
    intro tokens formula rest h
    unfold unary at h
    split at h
    · obtain ⟨⟨operand, behind⟩, hoperand, h⟩ := bind_eq_ok.1 h
      cases h
      obtain ⟨operand, htokens, rfl, hdepth⟩ := ih _ _ _ hoperand
      exact ⟨.minus operand, by simp [Derivation.yield, htokens], rfl, Nat.succ_lt_succ hdepth⟩
    · obtain ⟨operand, htokens, rfl, hdepth⟩ := ih _ _ _ h
      exact ⟨.plus operand, by simp [Derivation.yield, htokens], rfl, Nat.succ_lt_succ hdepth⟩
    · obtain ⟨power, htokens, rfl, hdepth⟩ := power_takesDerived ih _ _ _ h
      exact ⟨.unsigned power, htokens, rfl, hdepth⟩

/-! ### Derivations are read -/

/-- The reader takes these tokens, up to where the part ends, for the formula. -/
def Takes (reader : PartReader) (part : Part) (yield : List Token) (formula : Formula) : Prop :=
  ∀ tokens following, bare tokens = yield ++ following → EndsBefore part following →
    ∃ rest, reader tokens = .ok (formula, rest) ∧ bare rest = following

/-- What is read of a derivation, given the reader of what is open one level further in. The rest of
a chain is read behind any formula, whatever bounds the operators. -/
def IsTaken (levels : Nat) : {part : Part} → Derivation part → Prop
  | .sum, d => d.depth < levels → Takes (sum (unary levels)) .sum d.yield d.tree
  | .sumMore, d => d.depth < levels → ∀ left bound, d.yield.length ≤ bound →
    Takes (chain sumOperator? (product (unary levels)) bound left) .sumMore d.yield (d.tree left)
  | .product, d => d.depth < levels → Takes (product (unary levels)) .product d.yield d.tree
  | .productMore, d => d.depth < levels → ∀ left bound, d.yield.length ≤ bound →
    Takes (chain productOperator? (unary levels) bound left) .productMore d.yield (d.tree left)
  | .unary, d => d.depth < levels → Takes (unary levels) .unary d.yield d.tree
  | .power, d => d.depth ≤ levels → Takes (power (unary levels)) .power d.yield d.tree
  | .primary, d => d.depth ≤ levels → Takes (primary (unary levels)) .primary d.yield d.tree

lemma chain_takes_end {operator? : Token → Option Operator} {operand : PartReader} {part : Part}
    (hends : ∀ token, part.rank < tokenRank token → operator? token = none) (bound : Nat)
    (left : Formula) : Takes (chain operator? operand bound left) part [] left := by
  intro tokens following htokens hfollowing
  refine ⟨tokens, ?_, htokens⟩
  cases bound with
  | zero => rfl
  | succ bound =>
    cases tokens with
    | nil => rfl
    | cons placed tokens =>
      rw [chain, hends _ (hfollowing _ _ htokens.symm)]

lemma chain_takes_more {operator? : Token → Option Operator} {operand : PartReader}
    {part inside : Part} {sign : Token} {operator : Operator}
    (hsign : operator? sign = some operator)
    {yield more : List Token} {left right formula : Formula} {bound : Nat}
    (hoperand : Takes operand inside yield right)
    (hinside : ∀ following, EndsBefore part following → EndsBefore inside (more ++ following))
    (hmore :
      Takes (chain operator? operand bound (.binary operator left right)) part more formula) :
    Takes (chain operator? operand (bound + 1) left) part (sign :: (yield ++ more)) formula := by
  intro tokens following htokens hfollowing
  rw [List.cons_append, List.append_assoc] at htokens
  obtain ⟨position, tokens, rfl, htail⟩ := bare_eq_cons htokens
  obtain ⟨behind, hread, hbehind⟩ := hoperand tokens _ htail (hinside following hfollowing)
  obtain ⟨rest, hrest, hend⟩ := hmore behind following hbehind hfollowing
  refine ⟨rest, ?_, hend⟩
  rw [chain]
  simp only [hsign]
  rw [hread]
  exact hrest

lemma length_more_le {sign : Token} {yield more : List Token} {bound : Nat}
    (h : (sign :: (yield ++ more)).length ≤ bound + 1) : more.length ≤ bound := by
  simp only [List.length_cons, List.length_append] at h
  omega

lemma chained_takes {operator? : Token → Option Operator} {operand : PartReader}
    {part inside : Part} {yield more : List Token} {left formula : Formula}
    (hoperand : Takes operand inside yield left)
    (hinside : ∀ following, EndsBefore part following → EndsBefore inside (more ++ following))
    (hmore : ∀ bound, more.length ≤ bound →
      Takes (chain operator? operand bound left) part more formula) :
    Takes (fun tokens => do
      let (left, rest) ← operand tokens
      chain operator? operand rest.length left rest) part (yield ++ more) formula := by
  intro tokens following htokens hfollowing
  rw [List.append_assoc] at htokens
  obtain ⟨behind, hread, hbehind⟩ := hoperand tokens _ htokens (hinside following hfollowing)
  have hbound : more.length ≤ behind.length := by
    rw [← length_bare, hbehind, List.length_append]
    exact Nat.le_add_right _ _
  obtain ⟨rest, hrest, hend⟩ := hmore behind.length hbound behind following hbehind hfollowing
  exact ⟨rest, by dsimp only; rw [hread]; exact hrest, hend⟩

lemma bracketed_takes {inner : PartReader} {yield : List Token} {formula : Formula}
    (h : Takes (sum inner) .sum yield formula) {tokens : List Placed} {following : List Token}
    (htokens : bare tokens = yield ++ .closing :: following) :
    ∃ rest, Formula.bracketed inner tokens = .ok (formula, rest) ∧ bare rest = following := by
  obtain ⟨behind, hread, hbehind⟩ := h tokens _ htokens (endsBefore_cons (by decide))
  obtain ⟨position, rest, rfl, hrest⟩ := bare_eq_cons hbehind
  exact ⟨rest, by rw [Formula.bracketed, hread]; rfl, hrest⟩

lemma named?_text (word : FunctionWord) : Function.named? word.text = some word.function := by
  cases word <;> rfl

lemma constant?_text (word : ConstantWord) : constant? word.text = some word.formula := by
  cases word <;> rfl

lemma primary_constant (word : ConstantWord) (inner : PartReader) (position : Nat)
    {rest : List Placed} (h : EndsBefore .primary (bare rest)) :
    primary inner (⟨.name word.text, position⟩ :: rest) = .ok (word.formula, rest) := by
  cases rest with
  | nil => simp only [primary, constant?_text]
  | cons placed rest =>
    obtain ⟨token, place⟩ := placed
    cases token with
    | opening => exact absurd (h _ _ rfl) (Nat.lt_irrefl 0)
    | _ => simp only [primary, constant?_text]

lemma power_plain {inner : PartReader} {tokens rest : List Placed} {base : Formula}
    (hbase : primary inner tokens = .ok (base, rest)) (h : EndsBefore .power (bare rest)) :
    power inner tokens = .ok (base, rest) := by
  rw [power, hbase]
  cases rest with
  | nil => rfl
  | cons placed rest =>
    obtain ⟨token, position⟩ := placed
    cases token with
    | caret => exact absurd (h _ _ rfl) (Nat.lt_irrefl 1)
    | _ => rfl

lemma power_raised {inner : PartReader} {tokens behind rest : List Placed} {position : Nat}
    {base exponent : Formula}
    (hbase : primary inner tokens = .ok (base, ⟨.caret, position⟩ :: behind))
    (hexponent : inner behind = .ok (exponent, rest)) :
    power inner tokens = .ok (.binary .power base exponent, rest) := by
  rw [power, hbase]
  change (inner behind >>= fun read => pure (Formula.binary .power base read.1, read.2)) = _
  rw [hexponent]
  rfl

lemma unary_power {levels : Nat} {token : Token} {position : Nat} {rest : List Placed}
    (h : startsPower token = true) :
    unary (levels + 1) (⟨token, position⟩ :: rest) =
      power (unary levels) (⟨token, position⟩ :: rest) := by
  cases token <;> first | rfl | cases h

lemma sumOperator?_token (sign : SumSign) : sumOperator? sign.token = some sign.operator := by
  cases sign <;> rfl

lemma productOperator?_token (sign : ProductSign) :
    productOperator? sign.token = some sign.operator := by
  cases sign <;> rfl

lemma sumOperator?_eq_none {token : Token} (h : Part.sumMore.rank < tokenRank token) :
    sumOperator? token = none := by
  cases token <;> first | rfl | exact absurd h (by decide)

lemma productOperator?_eq_none {token : Token} (h : Part.productMore.rank < tokenRank token) :
    productOperator? token = none := by
  cases token <;> first | rfl | exact absurd h (by decide)

section Taken

variable {levels : Nat}

lemma sum_isTaken {first : Derivation .product} {more : Derivation .sumMore}
    (hfirst : IsTaken levels first) (hmore : IsTaken levels more) :
    IsTaken levels (.sum first more) := by
  intro hdepth
  obtain ⟨hshallow, hrest⟩ := Nat.max_lt.1 hdepth
  exact chained_takes (hfirst hshallow) (fun _ => endsBefore_sumMore more)
    fun bound => hmore hrest first.tree bound

lemma sumEnd_isTaken : IsTaken levels .sumEnd :=
  fun _ left bound _ => chain_takes_end (fun _ => sumOperator?_eq_none) bound left

lemma sumMore_isTaken {sign : SumSign} {operand : Derivation .product}
    {more : Derivation .sumMore} (hoperand : IsTaken levels operand)
    (hmore : IsTaken levels more) : IsTaken levels (.sumMore sign operand more) := by
  intro hdepth left bound hbound
  obtain ⟨hshallow, hrest⟩ := Nat.max_lt.1 hdepth
  cases bound with
  | zero => cases hbound
  | succ bound =>
    have hlength := length_more_le hbound
    exact chain_takes_more (sumOperator?_token sign) (hoperand hshallow)
      (fun _ => endsBefore_sumMore more) (hmore hrest _ bound hlength)

lemma product_isTaken {first : Derivation .unary} {more : Derivation .productMore}
    (hfirst : IsTaken levels first) (hmore : IsTaken levels more) :
    IsTaken levels (.product first more) := by
  intro hdepth
  obtain ⟨hshallow, hrest⟩ := Nat.max_lt.1 hdepth
  exact chained_takes (hfirst hshallow) (fun _ => endsBefore_productMore more)
    fun bound => hmore hrest first.tree bound

lemma productEnd_isTaken : IsTaken levels .productEnd :=
  fun _ left bound _ => chain_takes_end (fun _ => productOperator?_eq_none) bound left

lemma productMore_isTaken {sign : ProductSign} {operand : Derivation .unary}
    {more : Derivation .productMore} (hoperand : IsTaken levels operand)
    (hmore : IsTaken levels more) : IsTaken levels (.productMore sign operand more) := by
  intro hdepth left bound hbound
  obtain ⟨hshallow, hrest⟩ := Nat.max_lt.1 hdepth
  cases bound with
  | zero => cases hbound
  | succ bound =>
    have hlength := length_more_le hbound
    exact chain_takes_more (productOperator?_token sign) (hoperand hshallow)
      (fun _ => endsBefore_productMore more) (hmore hrest _ bound hlength)

/-- Nothing is open without a level, so only what is read with one needs a reason. -/
lemma unary_isTaken {d : Derivation .unary} (h : ∀ levels, IsTaken (levels + 1) d) :
    ∀ levels, IsTaken levels d
  | 0 => fun hdepth => absurd hdepth (Nat.not_lt_zero _)
  | levels + 1 => h levels

lemma minus_isTaken {inner : Derivation .unary} (h : IsTaken levels inner) :
    IsTaken (levels + 1) (.minus inner) := by
  intro hdepth tokens following htokens hfollowing
  obtain ⟨position, tokens, rfl, hinner⟩ := bare_eq_cons htokens
  obtain ⟨rest, hread, hrest⟩ :=
    h (Nat.lt_of_succ_lt_succ hdepth) tokens following hinner hfollowing
  exact ⟨rest, by rw [unary, hread]; rfl, hrest⟩

lemma plus_isTaken {inner : Derivation .unary} (h : IsTaken levels inner) :
    IsTaken (levels + 1) (.plus inner) := by
  intro hdepth tokens following htokens hfollowing
  obtain ⟨position, tokens, rfl, hinner⟩ := bare_eq_cons htokens
  obtain ⟨rest, hread, hrest⟩ :=
    h (Nat.lt_of_succ_lt_succ hdepth) tokens following hinner hfollowing
  exact ⟨rest, by rw [unary, hread]; rfl, hrest⟩

lemma unsigned_isTaken {power : Derivation .power} (h : IsTaken levels power) :
    IsTaken (levels + 1) (.unsigned power) := by
  intro hdepth tokens following htokens hfollowing
  obtain ⟨rest, hread, hrest⟩ :=
    h (Nat.le_of_lt_succ hdepth) tokens following htokens hfollowing
  obtain ⟨token, more, hpower, hstarts⟩ := power_yield_first power
  obtain ⟨position, behind, rfl, -⟩ :=
    bare_eq_cons (htokens.trans (congrArg (· ++ following) hpower))
  exact ⟨rest, by rw [unary_power hstarts, hread]; rfl, hrest⟩

lemma plain_isTaken {base : Derivation .primary} (h : IsTaken levels base) :
    IsTaken levels (.plain base) := by
  intro hdepth tokens following htokens hfollowing
  obtain ⟨rest, hread, hrest⟩ :=
    h hdepth tokens following htokens (hfollowing.mono (by decide))
  exact ⟨rest, power_plain hread (by rwa [hrest]), hrest⟩

lemma raised_isTaken {base : Derivation .primary} {exponent : Derivation .unary}
    (hbase : IsTaken levels base) (hexponent : IsTaken levels exponent) :
    IsTaken levels (.raised base exponent) := by
  intro hdepth tokens following htokens hfollowing
  obtain ⟨hshallow, hinside⟩ := Nat.max_le.1 hdepth
  simp only [Derivation.yield, List.append_assoc, List.cons_append] at htokens
  obtain ⟨behind, hread, hbehind⟩ :=
    hbase hshallow tokens _ htokens (endsBefore_cons (by decide))
  obtain ⟨position, behind, rfl, hinner⟩ := bare_eq_cons hbehind
  obtain ⟨rest, hraise, hrest⟩ := hexponent hinside behind following hinner hfollowing
  exact ⟨rest, power_raised hread hraise, hrest⟩

lemma number_isTaken (x : Float) : IsTaken levels (.number x) := by
  intro _ tokens following htokens _
  obtain ⟨position, rest, rfl, hrest⟩ := bare_eq_cons htokens
  exact ⟨rest, rfl, hrest⟩

lemma group_isTaken {inner : Derivation .sum} (h : IsTaken levels inner) :
    IsTaken levels (.group inner) := by
  intro hdepth tokens following htokens _
  simp only [Derivation.yield, List.append_assoc, List.cons_append] at htokens
  obtain ⟨position, tokens, rfl, hinner⟩ := bare_eq_cons htokens
  exact bracketed_takes (h hdepth) hinner

lemma call_isTaken {word : FunctionWord} {argument : Derivation .sum}
    (h : IsTaken levels argument) : IsTaken levels (.call word argument) := by
  intro hdepth tokens following htokens _
  simp only [Derivation.yield, List.append_assoc, List.cons_append] at htokens
  obtain ⟨position, tokens, rfl, hopening⟩ := bare_eq_cons htokens
  obtain ⟨place, tokens, rfl, hinner⟩ := bare_eq_cons hopening
  obtain ⟨rest, hread, hrest⟩ := bracketed_takes (h hdepth) hinner
  refine ⟨rest, ?_, hrest⟩
  simp only [primary, named?_text]
  rw [hread]
  rfl

lemma constant_isTaken (word : ConstantWord) : IsTaken levels (.constant word) := by
  intro _ tokens following htokens hfollowing
  obtain ⟨position, rest, rfl, rfl⟩ := bare_eq_cons htokens
  exact ⟨rest, primary_constant word _ position hfollowing, rfl⟩

end Taken

lemma derivation_isTaken {part : Part} (d : Derivation part) (levels : Nat) :
    IsTaken levels d := by
  induction d generalizing levels with
  | sum first more hfirst hmore => exact sum_isTaken (hfirst levels) (hmore levels)
  | sumEnd => exact sumEnd_isTaken
  | sumMore sign operand more hoperand hmore =>
    exact sumMore_isTaken (hoperand levels) (hmore levels)
  | product first more hfirst hmore => exact product_isTaken (hfirst levels) (hmore levels)
  | productEnd => exact productEnd_isTaken
  | productMore sign operand more hoperand hmore =>
    exact productMore_isTaken (hoperand levels) (hmore levels)
  | minus inner h => exact unary_isTaken (fun levels => minus_isTaken (h levels)) levels
  | plus inner h => exact unary_isTaken (fun levels => plus_isTaken (h levels)) levels
  | unsigned power h => exact unary_isTaken (fun levels => unsigned_isTaken (h levels)) levels
  | plain base h => exact plain_isTaken (h levels)
  | raised base exponent hbase hexponent =>
    exact raised_isTaken (hbase levels) (hexponent levels)
  | number x => exact number_isTaken x
  | group inner h => exact group_isTaken (h levels)
  | call word argument h => exact call_isTaken (h levels)
  | constant word => exact constant_isTaken word

/-! ### Formulas -/

/-- The tokens of the text are those of the derivation, and they are not too many nor nested too
deep. -/
structure Spells (text : String) (d : Derivation .sum) : Prop where
  tokens : Tokenizes text.toList d.yield
  few : d.yield.length ≤ 1024
  shallow : d.depth ≤ 255

lemma Tokenizes.unique {cs : List Char} {tokens tokens' : List Token} (h : Tokenizes cs tokens)
    (h' : Tokenizes cs tokens') : tokens = tokens' := by
  induction h generalizing tokens' with
  | done =>
    cases h'
    rfl
  | blank hblank _ ih =>
    cases h' with
    | blank _ hrest => exact ih hrest
    | token hdark => exact absurd hblank (by simp [hdark])
  | token hdark htoken _ ih =>
    cases h' with
    | blank hblank => exact absurd hblank (by simp [hdark])
    | token _ htoken' hafter =>
      cases htoken.symm.trans htoken'
      rw [ih hafter]

lemma sum_unique {d d' : Derivation .sum} (h : d.yield = d'.yield) : d = d' :=
  (derivation_unique d d' (congrArg (· ++ []) h) (endsBefore_nil _) (endsBefore_nil _)).1

lemma ofTokens_eq_ok {tokens : List Placed} {formula : Formula} :
    ofTokens tokens = .ok formula ↔
      ∃ d : Derivation .sum, bare tokens = d.yield ∧ d.depth < maxDepth ∧ d.tree = formula := by
  constructor
  · intro h
    obtain ⟨⟨formula, rest⟩, hsum, h⟩ := bind_eq_ok.1 h
    cases rest with
    | cons placed rest => cases h
    | nil =>
      cases h
      obtain ⟨d, htokens, htree, hdepth⟩ :=
        sum_takesDerived (unary_takesDerived maxDepth) _ _ _ hsum
      exact ⟨d, by simpa using htokens, hdepth, htree⟩
  · rintro ⟨d, htokens, hdepth, rfl⟩
    obtain ⟨rest, hread, hrest⟩ := derivation_isTaken d maxDepth hdepth tokens []
      (by simpa using htokens) (endsBefore_nil _)
    rw [bare_eq_nil.1 hrest] at hread
    rw [ofTokens, hread]
    rfl

/-- The reader of formulas accepts its grammar. A text is read as a formula exactly if its
tokens are at most 1024, are derived as a sum with at most 255 brackets, calls, signs and
exponents open at once, and the formula is the one of that derivation. The tokens of a text have
one derivation at most, whatever their number and depth. -/
theorem parse_iff_derived (text : String) :
    (∀ formula, parse text = .ok formula ↔
      ∃ d : Derivation .sum, Spells text d ∧ d.tree = formula) ∧
    ∀ d d' : Derivation .sum, Tokenizes text.toList d.yield → Tokenizes text.toList d'.yield →
      d = d' := by
  refine ⟨fun formula => ⟨fun h => ?_, ?_⟩, fun d d' h h' => sum_unique (h.unique h')⟩
  · obtain ⟨placed, hscan, hread⟩ := bind_eq_ok.1 h
    obtain ⟨d, hplaced, hdepth, htree⟩ := ofTokens_eq_ok.1 hread
    obtain ⟨htokens, hfew⟩ := scan_eq_ok.1 ⟨placed, hscan, hplaced⟩
    exact ⟨d, ⟨htokens, hfew, Nat.le_of_lt_succ hdepth⟩, htree⟩
  · rintro ⟨d, hspells, htree⟩
    obtain ⟨placed, hscan, hplaced⟩ := scan_eq_ok.2 ⟨hspells.tokens, hspells.few⟩
    exact bind_eq_ok.2 ⟨placed, hscan,
      ofTokens_eq_ok.2 ⟨d, hplaced, Nat.lt_succ_of_le hspells.shallow, htree⟩⟩

/-- The sign of `-x^-e` is outside of the power. -/
def negatedPower : Derivation .sum :=
  .sum (.product (.minus (.unsigned (.raised (.constant .x)
    (.minus (.unsigned (.plain (.constant .e))))))) .productEnd) .sumEnd

lemma tokenizes_negatedPower : Tokenizes "-x^-e".toList negatedPower.yield :=
  .token rfl rfl (.token rfl rfl (.token rfl rfl (.token rfl rfl (.token rfl rfl .done))))

theorem negated_power_parsed :
    parse "-x^-e" = .ok (.negate (.binary .power .unknown (.negate (.number 2.718281828459045)))) ∧
    ∀ d, Tokenizes "-x^-e".toList d.yield → d = negatedPower :=
  ⟨((parse_iff_derived "-x^-e").1 _).2
      ⟨negatedPower, ⟨tokenizes_negatedPower, by decide, by decide⟩, rfl⟩,
    fun d h => (parse_iff_derived "-x^-e").2 d negatedPower h tokenizes_negatedPower⟩

end Microworlds.Proofs

import Microworlds.Formula.Parser
import Mathlib.Tactic.Lemma

/-!
# The grammar of formulas

Derivations of formulas from the grammar

* sum: product, and any number of `+ product` or `- product`;
* product: unary, and any number of `* unary`, `/ unary` or `% unary`;
* unary: `- unary`, `+ unary`, or a power;
* power: primary, perhaps with `^ unary`;
* primary: a number, a sum in brackets, a function with a sum in brackets, `x`, `pi` or `e`.

A derivation has the tokens that it derives, the formula that it stands for, and a depth: how many
brackets, calls, signs and exponents are open at once. Its tokens settle a derivation, whatever
comes behind them that cannot go on with it.
-/

namespace Microworlds.Proofs

open Formula

/-- What can be derived. The operands of a chain behind its first one are parts of their own. -/
inductive Part where
  | sum
  | sumMore
  | product
  | productMore
  | unary
  | power
  | primary

inductive SumSign where
  | plus
  | minus

def SumSign.token : SumSign → Token
  | plus => .plus
  | minus => .minus

def SumSign.operator : SumSign → Operator
  | plus => .add
  | minus => .subtract

inductive ProductSign where
  | times
  | slash
  | percent

def ProductSign.token : ProductSign → Token
  | times => .times
  | slash => .slash
  | percent => .percent

def ProductSign.operator : ProductSign → Operator
  | times => .multiply
  | slash => .divide
  | percent => .remainder

/-- The words for functions. Two of them mean the same. -/
inductive FunctionWord where
  | sin
  | cos
  | tan
  | sqrt
  | log
  | ln
  | abs
  | exp

def FunctionWord.text : FunctionWord → String
  | sin => "sin"
  | cos => "cos"
  | tan => "tan"
  | sqrt => "sqrt"
  | log => "log"
  | ln => "ln"
  | abs => "abs"
  | exp => "exp"

def FunctionWord.function : FunctionWord → Function
  | sin => .sin
  | cos => .cos
  | tan => .tan
  | sqrt => .sqrt
  | log | ln => .ln
  | abs => .abs
  | exp => .exp

inductive ConstantWord where
  | x
  | pi
  | e

def ConstantWord.text : ConstantWord → String
  | x => "x"
  | pi => "pi"
  | e => "e"

def ConstantWord.formula : ConstantWord → Formula
  | x => .unknown
  | pi => .number 3.141592653589793
  | e => .number 2.718281828459045

inductive Derivation : Part → Type where
  | sum (first : Derivation .product) (more : Derivation .sumMore) : Derivation .sum
  | sumEnd : Derivation .sumMore
  | sumMore (sign : SumSign) (operand : Derivation .product) (more : Derivation .sumMore) :
    Derivation .sumMore
  | product (first : Derivation .unary) (more : Derivation .productMore) : Derivation .product
  | productEnd : Derivation .productMore
  | productMore (sign : ProductSign) (operand : Derivation .unary)
    (more : Derivation .productMore) : Derivation .productMore
  | minus (inner : Derivation .unary) : Derivation .unary
  | plus (inner : Derivation .unary) : Derivation .unary
  | unsigned (power : Derivation .power) : Derivation .unary
  | plain (base : Derivation .primary) : Derivation .power
  | raised (base : Derivation .primary) (exponent : Derivation .unary) : Derivation .power
  | number (x : Float) : Derivation .primary
  | group (inner : Derivation .sum) : Derivation .primary
  | call (word : FunctionWord) (argument : Derivation .sum) : Derivation .primary
  | constant (word : ConstantWord) : Derivation .primary

namespace Derivation

/-- The tokens that are derived. -/
def yield {part : Part} : Derivation part → List Token
  | sum first more => first.yield ++ more.yield
  | sumEnd => []
  | sumMore sign operand more => sign.token :: (operand.yield ++ more.yield)
  | product first more => first.yield ++ more.yield
  | productEnd => []
  | productMore sign operand more => sign.token :: (operand.yield ++ more.yield)
  | minus inner => .minus :: inner.yield
  | plus inner => .plus :: inner.yield
  | unsigned power => power.yield
  | plain base => base.yield
  | raised base exponent => base.yield ++ .caret :: exponent.yield
  | number x => [.number x]
  | group inner => .opening :: (inner.yield ++ [.closing])
  | call word argument => .name word.text :: .opening :: (argument.yield ++ [.closing])
  | constant word => [.name word.text]

/-- What a derived part stands for. The rest of a chain goes on with the formula before it. -/
@[reducible] def Meaning : Part → Type
  | .sumMore | .productMore => Formula → Formula
  | _ => Formula

/-- The formula that a derivation assigns. Chains associate to the left, powers to the right, and a
plus in front of a part is dropped. -/
def tree {part : Part} : Derivation part → Meaning part
  | sum first more => more.tree first.tree
  | sumEnd => fun left => left
  | sumMore sign operand more => fun left => more.tree (.binary sign.operator left operand.tree)
  | product first more => more.tree first.tree
  | productEnd => fun left => left
  | productMore sign operand more =>
    fun left => more.tree (.binary sign.operator left operand.tree)
  | minus inner => .negate inner.tree
  | plus inner => inner.tree
  | unsigned power => power.tree
  | plain base => base.tree
  | raised base exponent => .binary .power base.tree exponent.tree
  | number x => .number x
  | group inner => inner.tree
  | call word argument => .call word.function argument.tree
  | constant word => word.formula

/-- How many brackets, calls, signs and exponents are open at once. -/
def depth {part : Part} : Derivation part → Nat
  | sum first more => max first.depth more.depth
  | sumEnd => 0
  | sumMore _ operand more => max operand.depth more.depth
  | product first more => max first.depth more.depth
  | productEnd => 0
  | productMore _ operand more => max operand.depth more.depth
  | minus inner => inner.depth + 1
  | plus inner => inner.depth + 1
  | unsigned power => power.depth
  | plain base => base.depth
  | raised base exponent => max base.depth (exponent.depth + 1)
  | number _ => 0
  | group inner => inner.depth + 1
  | call _ argument => argument.depth + 1
  | constant _ => 0

end Derivation

/-- How loosely the operators bind that a part can go on with. -/
def Part.rank : Part → Nat
  | .primary => 0
  | .power | .unary => 1
  | .product | .productMore => 2
  | .sum | .sumMore => 3

/-- The rank of the parts that go on with a token behind them. A name goes on with a bracket. -/
def tokenRank : Token → Nat
  | .opening => 0
  | .caret => 1
  | .times | .slash | .percent => 2
  | .plus | .minus => 3
  | .number _ | .name _ | .closing => 4

/-- Whether a part ends where these tokens begin. -/
def EndsBefore (part : Part) (following : List Token) : Prop :=
  ∀ token rest, following = token :: rest → part.rank < tokenRank token

lemma endsBefore_nil (part : Part) : EndsBefore part [] := nofun

lemma endsBefore_cons {part : Part} {token : Token} {rest : List Token}
    (h : part.rank < tokenRank token) : EndsBefore part (token :: rest) := by
  rintro _ _ ⟨⟩
  exact h

lemma EndsBefore.mono {part inner : Part} {following : List Token} (h : EndsBefore part following)
    (hinner : inner.rank ≤ part.rank) : EndsBefore inner following :=
  fun token rest hfollowing => Nat.lt_of_le_of_lt hinner (h token rest hfollowing)

@[simp] lemma rank_sumSign (sign : SumSign) : tokenRank sign.token = 3 := by
  cases sign <;> rfl

@[simp] lemma rank_productSign (sign : ProductSign) : tokenRank sign.token = 2 := by
  cases sign <;> rfl

lemma endsBefore_sumMore (more : Derivation .sumMore) {following : List Token}
    (h : EndsBefore .sum following) : EndsBefore .product (more.yield ++ following) := by
  cases more with
  | sumEnd => exact h.mono (by decide)
  | sumMore sign operand more => exact endsBefore_cons (by simp [Part.rank])

lemma endsBefore_productMore (more : Derivation .productMore) {following : List Token}
    (h : EndsBefore .product following) : EndsBefore .unary (more.yield ++ following) := by
  cases more with
  | productEnd => exact h.mono (by decide)
  | productMore sign operand more => exact endsBefore_cons (by simp [Part.rank])

/-- The tokens that a power can begin with. -/
def startsPower : Token → Bool
  | .number _ | .name _ | .opening => true
  | _ => false

lemma primary_yield_first (base : Derivation .primary) :
    ∃ token more, base.yield = token :: more ∧ startsPower token = true := by
  cases base with
  | number x => exact ⟨_, _, rfl, rfl⟩
  | group inner => exact ⟨_, _, rfl, rfl⟩
  | call word argument => exact ⟨_, _, rfl, rfl⟩
  | constant word => exact ⟨_, _, rfl, rfl⟩

lemma power_yield_first (power : Derivation .power) :
    ∃ token more, power.yield = token :: more ∧ startsPower token = true := by
  cases power with
  | plain base => exact primary_yield_first base
  | raised base exponent =>
    obtain ⟨token, more, hbase, hstarts⟩ := primary_yield_first base
    exact ⟨token, more ++ .caret :: exponent.yield, by simp [Derivation.yield, hbase], hstarts⟩

lemma FunctionWord.text_inj {a b : FunctionWord} (h : a.text = b.text) : a = b := by
  cases a <;> cases b <;> simp [FunctionWord.text] at h ⊢

lemma ConstantWord.text_inj {a b : ConstantWord} (h : a.text = b.text) : a = b := by
  cases a <;> cases b <;> simp [ConstantWord.text] at h ⊢

lemma SumSign.token_inj {a b : SumSign} (h : a.token = b.token) : a = b := by
  cases a <;> cases b <;> first | rfl | cases h

lemma ProductSign.token_inj {a b : ProductSign} (h : a.token = b.token) : a = b := by
  cases a <;> cases b <;> first | rfl | cases h

lemma power_yield_ne {power : Derivation .power} {sign : Token} (hsign : startsPower sign = false)
    {following rest : List Token} : power.yield ++ following ≠ sign :: rest := by
  obtain ⟨token, more, hpower, hstarts⟩ := power_yield_first power
  rw [hpower]
  rintro ⟨⟩
  rw [hsign] at hstarts
  cases hstarts

/-! ### The tokens settle a derivation -/

/-- Whatever else derives these tokens up to where the part ends is this derivation. -/
def Unambiguous {part : Part} (d : Derivation part) : Prop :=
  ∀ (d' : Derivation part) {following following' : List Token},
    d.yield ++ following = d'.yield ++ following' → EndsBefore part following →
      EndsBefore part following' → d = d' ∧ following = following'

lemma chain_unambiguous {operand rest : Part} {first first' : Derivation operand}
    {more more' : Derivation rest} {following following' : List Token}
    (hfirst : Unambiguous first) (hmore : Unambiguous more)
    (h : first.yield ++ (more.yield ++ following) = first'.yield ++ (more'.yield ++ following'))
    (hinside : EndsBefore operand (more.yield ++ following))
    (hinside' : EndsBefore operand (more'.yield ++ following'))
    (hends : EndsBefore rest following) (hends' : EndsBefore rest following') :
    first = first' ∧ more = more' ∧ following = following' := by
  obtain ⟨hoperand, hrest⟩ := hfirst first' h hinside hinside'
  exact ⟨hoperand, hmore more' hrest hends hends'⟩

lemma sum_unambiguous {first : Derivation .product} {more : Derivation .sumMore}
    (hfirst : Unambiguous first) (hmore : Unambiguous more) : Unambiguous (.sum first more) := by
  intro d' following following' h hends hends'
  cases d' with
  | sum first' more' =>
    simp only [Derivation.yield, List.append_assoc] at h
    obtain ⟨rfl, rfl, hfollowing⟩ := chain_unambiguous hfirst hmore h
      (endsBefore_sumMore more hends) (endsBefore_sumMore more' hends') hends hends'
    exact ⟨rfl, hfollowing⟩

lemma sumEnd_unambiguous : Unambiguous .sumEnd := by
  intro d' following following' h hends hends'
  cases d' with
  | sumEnd => exact ⟨rfl, h⟩
  | sumMore sign operand more => exact absurd (hends _ _ h) (by simp [Part.rank])

lemma sumMore_unambiguous {sign : SumSign} {operand : Derivation .product}
    {more : Derivation .sumMore} (hoperand : Unambiguous operand) (hmore : Unambiguous more) :
    Unambiguous (.sumMore sign operand more) := by
  intro d' following following' h hends hends'
  cases d' with
  | sumEnd => exact absurd (hends' _ _ h.symm) (by simp [Part.rank])
  | sumMore sign' operand' more' =>
    simp only [Derivation.yield, List.cons_append, List.append_assoc, List.cons.injEq] at h
    obtain ⟨hsign, h⟩ := h
    obtain ⟨rfl, rfl, hfollowing⟩ := chain_unambiguous hoperand hmore h
      (endsBefore_sumMore more hends) (endsBefore_sumMore more' hends') hends hends'
    exact ⟨by rw [SumSign.token_inj hsign], hfollowing⟩

lemma product_unambiguous {first : Derivation .unary} {more : Derivation .productMore}
    (hfirst : Unambiguous first) (hmore : Unambiguous more) :
    Unambiguous (.product first more) := by
  intro d' following following' h hends hends'
  cases d' with
  | product first' more' =>
    simp only [Derivation.yield, List.append_assoc] at h
    obtain ⟨rfl, rfl, hfollowing⟩ := chain_unambiguous hfirst hmore h
      (endsBefore_productMore more hends) (endsBefore_productMore more' hends') hends hends'
    exact ⟨rfl, hfollowing⟩

lemma productEnd_unambiguous : Unambiguous .productEnd := by
  intro d' following following' h hends hends'
  cases d' with
  | productEnd => exact ⟨rfl, h⟩
  | productMore sign operand more => exact absurd (hends _ _ h) (by simp [Part.rank])

lemma productMore_unambiguous {sign : ProductSign} {operand : Derivation .unary}
    {more : Derivation .productMore} (hoperand : Unambiguous operand) (hmore : Unambiguous more) :
    Unambiguous (.productMore sign operand more) := by
  intro d' following following' h hends hends'
  cases d' with
  | productEnd => exact absurd (hends' _ _ h.symm) (by simp [Part.rank])
  | productMore sign' operand' more' =>
    simp only [Derivation.yield, List.cons_append, List.append_assoc, List.cons.injEq] at h
    obtain ⟨hsign, h⟩ := h
    obtain ⟨rfl, rfl, hfollowing⟩ := chain_unambiguous hoperand hmore h
      (endsBefore_productMore more hends) (endsBefore_productMore more' hends') hends hends'
    exact ⟨by rw [ProductSign.token_inj hsign], hfollowing⟩

lemma minus_unambiguous {inner : Derivation .unary} (h : Unambiguous inner) :
    Unambiguous (.minus inner) := by
  intro d' following following' htokens hends hends'
  cases d' with
  | minus inner' =>
    obtain ⟨rfl, hfollowing⟩ := h inner' (List.cons.inj htokens).2 hends hends'
    exact ⟨rfl, hfollowing⟩
  | plus inner' => cases htokens
  | unsigned power' => exact absurd htokens.symm (power_yield_ne rfl)

lemma plus_unambiguous {inner : Derivation .unary} (h : Unambiguous inner) :
    Unambiguous (.plus inner) := by
  intro d' following following' htokens hends hends'
  cases d' with
  | minus inner' => cases htokens
  | plus inner' =>
    obtain ⟨rfl, hfollowing⟩ := h inner' (List.cons.inj htokens).2 hends hends'
    exact ⟨rfl, hfollowing⟩
  | unsigned power' => exact absurd htokens.symm (power_yield_ne rfl)

lemma unsigned_unambiguous {power : Derivation .power} (h : Unambiguous power) :
    Unambiguous (.unsigned power) := by
  intro d' following following' htokens hends hends'
  cases d' with
  | minus inner' => exact absurd htokens (power_yield_ne rfl)
  | plus inner' => exact absurd htokens (power_yield_ne rfl)
  | unsigned power' =>
    obtain ⟨rfl, hfollowing⟩ := h power' htokens hends hends'
    exact ⟨rfl, hfollowing⟩

lemma plain_unambiguous {base : Derivation .primary} (h : Unambiguous base) :
    Unambiguous (.plain base) := by
  intro d' following following' htokens hends hends'
  cases d' with
  | plain base' =>
    obtain ⟨rfl, hfollowing⟩ :=
      h base' htokens (hends.mono (by decide)) (hends'.mono (by decide))
    exact ⟨rfl, hfollowing⟩
  | raised base' exponent' =>
    simp only [Derivation.yield, List.append_assoc, List.cons_append] at htokens
    obtain ⟨-, hrest⟩ := h base' htokens (hends.mono (by decide)) (endsBefore_cons (by decide))
    exact absurd (hends _ _ hrest) (by decide)

lemma raised_unambiguous {base : Derivation .primary} {exponent : Derivation .unary}
    (hbase : Unambiguous base) (hexponent : Unambiguous exponent) :
    Unambiguous (.raised base exponent) := by
  intro d' following following' h hends hends'
  cases d' with
  | plain base' =>
    simp only [Derivation.yield, List.append_assoc, List.cons_append] at h
    obtain ⟨-, hrest⟩ := hbase base' h (endsBefore_cons (by decide)) (hends'.mono (by decide))
    exact absurd (hends' _ _ hrest.symm) (by decide)
  | raised base' exponent' =>
    simp only [Derivation.yield, List.append_assoc, List.cons_append] at h
    obtain ⟨rfl, hrest⟩ :=
      hbase base' h (endsBefore_cons (by decide)) (endsBefore_cons (by decide))
    obtain ⟨rfl, hfollowing⟩ := hexponent exponent' (List.cons.inj hrest).2 hends hends'
    exact ⟨rfl, hfollowing⟩

lemma number_unambiguous (x : Float) : Unambiguous (.number x) := by
  intro d' following following' h hends hends'
  cases d' with
  | number x' => cases h; exact ⟨rfl, rfl⟩
  | group inner' => cases h
  | call word' argument' => cases h
  | constant word' => cases h

lemma group_unambiguous {inner : Derivation .sum} (h : Unambiguous inner) :
    Unambiguous (.group inner) := by
  intro d' following following' htokens hends hends'
  cases d' with
  | number x' => cases htokens
  | group inner' =>
    simp only [Derivation.yield, List.append_assoc, List.cons_append, List.cons.injEq, true_and]
      at htokens
    obtain ⟨rfl, hrest⟩ :=
      h inner' htokens (endsBefore_cons (by decide)) (endsBefore_cons (by decide))
    exact ⟨rfl, (List.cons.inj hrest).2⟩
  | call word' argument' => cases htokens
  | constant word' => cases htokens

lemma call_unambiguous {word : FunctionWord} {argument : Derivation .sum}
    (h : Unambiguous argument) : Unambiguous (.call word argument) := by
  intro d' following following' htokens hends hends'
  cases d' with
  | number x' => cases htokens
  | group inner' => cases htokens
  | call word' argument' =>
    simp only [Derivation.yield, List.append_assoc, List.cons_append, List.cons.injEq,
      Token.name.injEq, true_and] at htokens
    obtain ⟨hword, htokens⟩ := htokens
    obtain ⟨rfl, hrest⟩ :=
      h argument' htokens (endsBefore_cons (by decide)) (endsBefore_cons (by decide))
    exact ⟨by rw [FunctionWord.text_inj hword], (List.cons.inj hrest).2⟩
  | constant word' =>
    -- a constant is no call, for no bracket may follow it
    exact absurd (hends' _ _ (List.cons.inj htokens).2.symm) (by decide)

lemma constant_unambiguous (word : ConstantWord) : Unambiguous (.constant word) := by
  intro d' following following' h hends hends'
  cases d' with
  | number x' => cases h
  | group inner' => cases h
  | call word' argument' => exact absurd (hends _ _ (List.cons.inj h).2) (by decide)
  | constant word' =>
    simp only [Derivation.yield, List.cons_append, List.nil_append, List.cons.injEq,
      Token.name.injEq] at h
    exact ⟨by rw [ConstantWord.text_inj h.1], h.2⟩

lemma derivation_unique {part : Part} (d : Derivation part) : Unambiguous d := by
  induction d with
  | sum first more hfirst hmore => exact sum_unambiguous hfirst hmore
  | sumEnd => exact sumEnd_unambiguous
  | sumMore sign operand more hoperand hmore => exact sumMore_unambiguous hoperand hmore
  | product first more hfirst hmore => exact product_unambiguous hfirst hmore
  | productEnd => exact productEnd_unambiguous
  | productMore sign operand more hoperand hmore => exact productMore_unambiguous hoperand hmore
  | minus inner h => exact minus_unambiguous h
  | plus inner h => exact plus_unambiguous h
  | unsigned power h => exact unsigned_unambiguous h
  | plain base h => exact plain_unambiguous h
  | raised base exponent hbase hexponent => exact raised_unambiguous hbase hexponent
  | number x => exact number_unambiguous x
  | group inner h => exact group_unambiguous h
  | call word argument h => exact call_unambiguous h
  | constant word => exact constant_unambiguous word

end Microworlds.Proofs

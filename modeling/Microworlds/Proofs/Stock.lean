import Microworlds.Stock
import Microworlds.Proofs.Counter
import Microworlds.Proofs.Handler
import Mathlib

/-!
# Stocks in exact numbers

What is put into a stock and taken out of it. An addition ends at the greatest number of a counter. A
cost that is paid is taken in full, no more than that is taken, and no resource is listed or struck off.
-/

namespace Microworlds.Proofs

variable {α : Type}

/-! ### Tables -/

lemma find?_insertEntry (name other : String) (value : α) (entries : List (String × α)) :
    (Table.insertEntry name value entries).find? (·.1 == other) =
      if other = name then some (name, value) else entries.find? (·.1 == other) := by
  induction entries with
  | nil =>
    by_cases h : other = name
    · simp [Table.insertEntry, h]
    · simp [Table.insertEntry, h, Ne.symm h]
  | cons first more ih =>
    obtain ⟨n, v⟩ := first
    rw [Table.insertEntry]
    split
    · by_cases h : other = name
      · simp [h]
      · simp [h, Ne.symm h]
    · split
      · next heq =>
        subst heq
        by_cases h : other = name
        · simp [h]
        · simp [h, Ne.symm h]
      · next hne =>
        rw [List.find?_cons, List.find?_cons, ih]
        by_cases h : n = other
        · have hother : ¬ other = name := fun hname => hne (hname.symm.trans h.symm)
          simp [h, hother]
        · have hfalse : (n == other) = false := by simpa using h
          simp only [hfalse]

lemma find?_insert (t : Table α) (name other : String) (value : α) :
    (t.insert name value).find? other = if other = name then some value else t.find? other := by
  unfold Table.find? Table.insert
  rw [find?_insertEntry]
  split <;> rfl

lemma contains_insert (t : Table α) (name other : String) (value : α) :
    (t.insert name value).contains other = true ↔ other = name ∨ t.contains other = true := by
  unfold Table.contains
  rw [find?_insert]
  by_cases h : other = name
  · simp [h]
  · simp [h]

/-! ### Amounts -/

lemma amount_insert (stock : Stock) (name other : String) (amount : UInt64) :
    Stock.amount (stock.insert name amount) other =
      if other = name then amount else Stock.amount stock other := by
  unfold Stock.amount
  rw [find?_insert]
  split <;> rfl

lemma amount_cases (stock : Stock) (resource : String) :
    Stock.amount stock resource = 0 ∨ ∃ held ∈ stock.entries, held.2 = Stock.amount stock resource := by
  unfold Stock.amount Table.find?
  cases hfind : stock.entries.find? (·.1 == resource) with
  | none => exact .inl rfl
  | some held => exact .inr ⟨held, List.mem_of_find?_eq_some hfind, rfl⟩

/-- What a cost asks for of a resource. -/
def due (cost : Cost) (resource : String) : Nat :=
  (cost.map fun (name, amount) => if name = resource then amount.toNat else 0).sum

@[simp]
lemma due_nil (resource : String) : due [] resource = 0 := rfl

@[simp]
lemma due_cons (name : String) (amount : UInt64) (more : Cost) (resource : String) :
    due ((name, amount) :: more) resource =
      (if name = resource then amount.toNat else 0) + due more resource := rfl

lemma amount_add (stock : Stock) (name : String) (amount : UInt64) (resource : String) :
    (Stock.amount (Stock.add stock name amount) resource).toNat =
      if name = resource then min Word.greatest64 ((Stock.amount stock name).toNat + amount.toNat)
      else (Stock.amount stock resource).toNat := by
  unfold Stock.add
  rw [amount_insert]
  by_cases h : name = resource
  · subst h
    rw [if_pos rfl, if_pos rfl, toNat_add]
  · rw [if_neg h, if_neg (Ne.symm h)]

lemma amount_le (stock : Stock) (resource : String) :
    (Stock.amount stock resource).toNat ≤ Word.greatest64 :=
  Nat.le_of_lt_succ (Stock.amount stock resource).toNat_lt_size

lemma amount_addAll (stock : Stock) (amounts : Cost) (resource : String) :
    (Stock.amount (Stock.addAll stock amounts) resource).toNat =
      min Word.greatest64 ((Stock.amount stock resource).toNat + due amounts resource) := by
  unfold Stock.addAll
  induction amounts generalizing stock with
  | nil =>
    have hle := amount_le stock resource
    rw [List.foldl_nil, due_nil]
    omega
  | cons first more ih =>
    obtain ⟨name, amount⟩ := first
    rw [List.foldl_cons, ih, amount_add, due_cons]
    by_cases h : name = resource
    · subst h
      rw [if_pos rfl, if_pos rfl]
      omega
    · rw [if_neg h, if_neg h]
      omega

lemma contains_addAll (stock : Stock) (amounts : Cost) (name : String) :
    (Stock.addAll stock amounts).contains name = true ↔
      name ∈ amounts.map Prod.fst ∨ stock.contains name = true := by
  unfold Stock.addAll
  induction amounts generalizing stock with
  | nil => simp
  | cons first more ih =>
    obtain ⟨resource, amount⟩ := first
    rw [List.foldl_cons, ih]
    simp only [Stock.add, contains_insert, List.map_cons, List.mem_cons]
    tauto

/-! ### Payments -/

lemma amount_take (stock : Stock) (name : String) (amount : UInt64) (resource : String) :
    (Stock.amount (Stock.take stock name amount) resource).toNat =
      (Stock.amount stock resource).toNat - if name = resource then amount.toNat else 0 := by
  unfold Stock.take
  cases hfind : stock.find? name with
  | none =>
    by_cases h : name = resource
    · subst h
      have hzero : Stock.amount stock name = 0 := by rw [Stock.amount, hfind]; rfl
      simp [hzero]
    · simp [h]
  | some held =>
    rw [amount_insert]
    by_cases h : name = resource
    · subst h
      have hheld : Stock.amount stock name = held := by rw [Stock.amount, hfind]; rfl
      rw [if_pos rfl, if_pos rfl, toNat_sub, hheld]
    · rw [if_neg h, if_neg (Ne.symm h), Nat.sub_zero]

lemma contains_take (stock : Stock) (name : String) (amount : UInt64) (other : String) :
    (Stock.take stock name amount).contains other = stock.contains other := by
  unfold Stock.take
  cases hfind : stock.find? name with
  | none => rfl
  | some held =>
    apply Bool.eq_iff_iff.mpr
    rw [contains_insert]
    constructor
    · rintro (rfl | h)
      · rw [Table.contains, hfind]
        rfl
      · exact h
    · exact .inr

/-- The stock holds what is left after a cost has been taken from another one. -/
structure Paid (cost : Cost) (before after : Stock) : Prop where
  amounts : ∀ resource,
    (Stock.amount after resource).toNat + due cost resource = (Stock.amount before resource).toNat
  names : ∀ name, after.contains name = before.contains name

lemma check_ok {stock : Stock} {cost : Cost} (h : Stock.check stock cost = .ok ())
    {name : String} {need : UInt64} (hmem : (name, need) ∈ cost) :
    need.toNat ≤ (Stock.amount stock name).toNat := by
  induction cost with
  | nil => cases hmem
  | cons first more ih =>
    obtain ⟨resource, amount⟩ := first
    change (if Stock.amount stock resource < amount then _ else Stock.check stock more) = _ at h
    split at h
    · cases h
    · next henough =>
      rcases List.mem_cons.mp hmem with heq | hmore
      · cases heq
        rw [UInt64.lt_iff_toNat_lt] at henough
        omega
      · exact ih h hmore

lemma paid_takes {stock : Stock} {cost : Cost} (hnames : (cost.map Prod.fst).Nodup)
    (henough : ∀ name need, (name, need) ∈ cost → need.toNat ≤ (Stock.amount stock name).toNat) :
    Paid cost stock (cost.foldl (fun left (name, need) => Stock.take left name need) stock) := by
  induction cost generalizing stock with
  | nil => exact ⟨fun _ => rfl, fun _ => rfl⟩
  | cons first more ih =>
    obtain ⟨name, need⟩ := first
    obtain ⟨hname, hnames⟩ := List.nodup_cons.mp hnames
    have hfirst : need.toNat ≤ (Stock.amount stock name).toNat :=
      henough name need List.mem_cons_self
    -- the resources after the first one are others, so nothing has been taken of them yet
    have hmore : ∀ other amount, (other, amount) ∈ more →
        amount.toNat ≤ (Stock.amount (Stock.take stock name need) other).toNat := by
      intro other amount hmem
      have hother : other ∈ more.map Prod.fst := List.mem_map_of_mem hmem
      have hne : name ≠ other := fun heq => hname (heq ▸ hother)
      rw [amount_take, if_neg hne]
      exact henough other amount (List.mem_cons_of_mem _ hmem)
    have hpaid := ih hnames hmore
    change Paid _ stock (List.foldl _ (Stock.take stock name need) more)
    refine ⟨fun resource => ?_, fun other => ?_⟩
    · have hamounts := hpaid.amounts resource
      rw [amount_take] at hamounts
      rw [due_cons]
      by_cases h : name = resource
      · subst h
        rw [if_pos rfl] at hamounts ⊢
        omega
      · rw [if_neg h] at hamounts ⊢
        omega
    · exact (hpaid.names other).trans (contains_take stock name need other)

/-- Each resource stands once in a cost that is spent, so nothing of it is lost. -/
lemma paid_of_spend {stock rest : Stock} {cost : Cost} (hnames : (cost.map Prod.fst).Nodup)
    (h : Stock.spend cost stock = .ok () rest) : Paid cost stock rest := by
  obtain ⟨_, hcheck, hrest⟩ := bind_liftM_ok (bind_get_ok h)
  cases hrest
  exact paid_takes hnames fun name need => check_ok hcheck

end Microworlds.Proofs

/-!
# Tables

A `Table` holds a value for each of finitely many names, in ascending order of the names. Two tables
with the same values for the same names are equal.
-/

namespace Microworlds

/-- A finite map from names, with its entries in ascending order. -/
structure Table (α : Type) where
  entries : List (String × α)
  ascending : entries.Pairwise fun a b => a.1 < b.1
  deriving DecidableEq

namespace Table

variable {α : Type}

/-- Puts an entry in its place among entries in ascending order, in place of one with its name. -/
def insertEntry (name : String) (value : α) : List (String × α) → List (String × α)
  | [] => [(name, value)]
  | (n, v) :: more =>
    if name < n then (name, value) :: (n, v) :: more
    else if name = n then (name, value) :: more
    else (n, v) :: insertEntry name value more

theorem mem_insertEntry {name : String} {value : α} {entry : String × α}
    {entries : List (String × α)} (h : entry ∈ insertEntry name value entries) :
    entry = (name, value) ∨ entry ∈ entries := by
  fun_induction insertEntry name value entries <;> grind

theorem ascending_insertEntry (name : String) (value : α) {entries : List (String × α)}
    (h : entries.Pairwise fun a b => a.1 < b.1) :
    (insertEntry name value entries).Pairwise fun a b => a.1 < b.1 := by
  fun_induction insertEntry name value entries with
  | case1 => simp
  | case2 => grind [List.pairwise_cons]
  | case3 => grind [List.pairwise_cons]
  | case4 n v more _ _ ih =>
    have hmem : ∀ e ∈ insertEntry name value more, n < e.1 := fun e he => by
      rcases mem_insertEntry he with rfl | hm <;> grind [List.pairwise_cons]
    grind [List.pairwise_cons]

/-- The table without entries. -/
def empty : Table α := ⟨[], .nil⟩

instance : Inhabited (Table α) := ⟨empty⟩

instance : EmptyCollection (Table α) := ⟨empty⟩

def find? (t : Table α) (name : String) : Option α :=
  (t.entries.find? (·.1 == name)).map (·.2)

def contains (t : Table α) (name : String) : Bool :=
  (t.find? name).isSome

/-- The table with the given value for a name, and all else as before. -/
def insert (t : Table α) (name : String) (value : α) : Table α :=
  ⟨insertEntry name value t.entries, ascending_insertEntry name value t.ascending⟩

/-- The table of a list of entries. Of several values for one name the last is taken. -/
def ofList (entries : List (String × α)) : Table α :=
  entries.foldl (fun t e => t.insert e.1 e.2) empty

def names (t : Table α) : List String :=
  t.entries.map (·.1)

end Table

end Microworlds

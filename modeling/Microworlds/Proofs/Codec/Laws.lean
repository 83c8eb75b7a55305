import Microworlds.Json.Coded
import Mathlib.Data.List.Nodup
import Mathlib.Tactic.Lemma

/-!
# What is encoded is decoded again

A type is lawful if reading the form of a value in JSON gives back the value. Numbers, texts, lists and
tables are lawful, and so is a record with distinct keys and lawful fields.
-/

namespace Microworlds.Proofs

/-- Reading the form of a value gives back the value. -/
class LawfulCoded (α : Type) [Coded α] : Prop where
  decode_encode : ∀ a : α, decode? (encode a) = some a

/-- No value has the form that stands for an absent one. -/
class NeverNull (α : Type) [Coded α] : Prop where
  encode_ne_null : ∀ a : α, encode a ≠ .null

export LawfulCoded (decode_encode)
export NeverNull (encode_ne_null)

attribute [simp] LawfulCoded.decode_encode

variable {α β : Type}

/-! ### Records -/

lemma occurrences_le_one {members : List (String × Json)} (h : (members.map (·.1)).Nodup)
    (key : String) : Json.occurrences members key ≤ 1 := by
  have hcount := List.nodup_iff_count_le_one.mp h key
  rwa [List.count, List.countP_map] at hcount

lemma member?_of_mem {members : List (String × Json)} (h : (members.map (·.1)).Nodup)
    {member : String × Json} (hmem : member ∈ members) :
    Json.member? members member.1 = some member.2 := by
  cases hfind : members.reverse.find? (·.1 == member.1) with
  | none =>
    rw [List.find?_eq_none] at hfind
    exact absurd (beq_self_eq_true member.1) (hfind member (List.mem_reverse.mpr hmem))
  | some found =>
    have hkey : found.1 = member.1 := by simpa using List.find?_some hfind
    have hfound : found ∈ members := List.mem_reverse.mp (List.mem_of_find?_eq_some hfind)
    rw [Json.member?, hfind, List.inj_on_of_nodup_map h hfound hmem hkey]
    rfl

lemma openFields?_obj {least : Nat} {names : List String} {members : List (String × Json)}
    (hnames : members.map (·.1) = names) (hnodup : names.Nodup) :
    (Json.obj members).openFields? least names = some (members.map (some ·.2)) := by
  subst hnames
  have honce : ((members.map (·.1)).any fun name => 1 < Json.occurrences members name) = false := by
    rw [List.any_eq_false]
    intro name _
    simpa using occurrences_le_one hnodup name
  rw [Json.openFields?, honce, if_neg Bool.false_ne_true, List.map_map]
  congr 1
  exact List.map_congr_left fun member hmem => member?_of_mem hnodup hmem

lemma decode_record {least : Nat} {names : List String} {members : List (String × Json)}
    {make : List (Option Json) → Option α} (hnames : members.map (·.1) = names)
    (hnodup : names.Nodup) :
    ((Json.obj members).openFields? least names).bind make = make (members.map (some ·.2)) := by
  rw [openFields?_obj hnames hnodup, Option.bind_some]

lemma tagged?_obj {tag : String} {value : Json} {members : List (String × Json)}
    (htag : tag ∉ members.map (·.1)) :
    (Json.obj ((tag, value) :: members)).tagged? tag = some (value, .obj members) := by
  have hkeys : ∀ member ∈ members, member.1 ≠ tag := by
    rintro member hmem rfl
    exact htag (List.mem_map_of_mem hmem)
  have honce : Json.occurrences ((tag, value) :: members) tag = 1 := by
    have hnone : members.countP (·.1 == tag) = 0 := by
      rw [List.countP_eq_zero]
      simpa using hkeys
    rw [Json.occurrences, List.countP_cons, hnone]
    simp
  have hfirst : Json.member? ((tag, value) :: members) tag = some value := by
    have hnone : members.reverse.find? (·.1 == tag) = none := by
      rw [List.find?_eq_none]
      simpa using hkeys
    simp [Json.member?, List.find?_append, hnone]
  have hrest : ((tag, value) :: members).filter (·.1 != tag) = members := by
    rw [List.filter_cons_of_neg (by simp), List.filter_eq_self]
    simpa using hkeys
  rw [Json.tagged?, if_pos honce, hfirst, hrest]
  rfl

lemma decode_tagged {tag : String} {value : Json} {members : List (String × Json)}
    {make : Json × Json → Option α} (htag : tag ∉ members.map (·.1)) :
    ((Json.obj ((tag, value) :: members)).tagged? tag).bind make = make (value, .obj members) := by
  rw [tagged?_obj htag, Option.bind_some]

@[simp] lemma field?_some [Coded α] (value : Json) : field? (α := α) (some value) = decode? value := rfl

@[simp] lemma optionalField?_some [Coded α] (value : Json) :
    optionalField? (α := α) (some value) = decode? value := rfl

/-! ### Plain values -/

instance : LawfulCoded Bool := ⟨fun _ => rfl⟩

instance : LawfulCoded String := ⟨fun _ => rfl⟩

instance : LawfulCoded Float := ⟨fun _ => rfl⟩

instance : LawfulCoded Nat := ⟨fun _ => rfl⟩

instance : LawfulCoded Int64 where
  decode_encode n := by
    have hleast := n.le_toInt
    have hgreatest := n.toInt_lt
    have hrange : -(Word.leastSigned : Int) ≤ n.toInt ∧ n.toInt ≤ Word.greatestSigned := by
      simp only [Word.leastSigned, Word.greatestSigned]
      omega
    change Word.int64? n.toInt = some n
    rw [Word.int64?, if_pos hrange, Int64.ofInt_toInt]

instance : LawfulCoded UInt64 where
  decode_encode n := by
    have hrange : n.toNat ≤ Word.greatest64 := Nat.le_of_lt_succ n.toNat_lt
    change Word.uint64? n.toNat = some n
    rw [Word.uint64?, if_pos hrange, UInt64.ofNat_toNat]

instance : LawfulCoded UInt32 where
  decode_encode n := by
    have hrange : n.toNat ≤ Word.greatest32 := Nat.le_of_lt_succ n.toNat_lt
    change Word.uint32? n.toNat = some n
    rw [Word.uint32?, if_pos hrange, UInt32.ofNat_toNat]

instance : NeverNull Bool := ⟨fun _ => nofun⟩

instance : NeverNull String := ⟨fun _ => nofun⟩

instance : NeverNull Float := ⟨fun _ => nofun⟩

instance : NeverNull Nat := ⟨fun _ => nofun⟩

instance : NeverNull UInt64 := ⟨fun _ => nofun⟩

/-! ### Values made of others -/

instance [Coded α] : NeverNull (List α) := ⟨fun _ => nofun⟩

lemma decode_some [Coded α] {value : Json} (h : value ≠ .null) :
    decode? (α := Option α) value = (decode? value).map some := by
  cases value <;> first | rfl | exact absurd rfl h

instance [Coded α] [LawfulCoded α] [NeverNull α] : LawfulCoded (Option α) where
  decode_encode o := by
    cases o with
    | none => rfl
    | some a =>
      change decode? (α := Option α) (encode a) = some (some a)
      rw [decode_some (encode_ne_null a), decode_encode, Option.map_some]

lemma mapM_map {f : β → Option α} {g : α → β} {items : List α}
    (h : ∀ a ∈ items, f (g a) = some a) : (items.map g).mapM f = some items := by
  induction items with
  | nil => rfl
  | cons a more ih =>
    rw [List.forall_mem_cons] at h
    simp [h.1, ih h.2]

instance [Coded α] [LawfulCoded α] : LawfulCoded (List α) where
  decode_encode items := by
    exact mapM_map fun a _ => decode_encode a

instance [Coded α] [Coded β] [LawfulCoded α] [LawfulCoded β] : LawfulCoded (α × β) where
  decode_encode pair := by
    change (do return (← decode? (encode pair.1), ← decode? (encode pair.2))) = some pair
    simp

lemma insertEntry_append {name : String} {value : α} {entries : List (String × α)}
    (h : ∀ entry ∈ entries, entry.1 < name) :
    Table.insertEntry name value entries = entries ++ [(name, value)] := by
  induction entries with
  | nil => rfl
  | cons first more ih =>
    obtain ⟨n, v⟩ := first
    have hn : n < name := h (n, v) List.mem_cons_self
    have hmore := ih fun entry he => h entry (List.mem_cons_of_mem _ he)
    rw [Table.insertEntry, if_neg (String.lt_asymm hn), if_neg (String.ne_of_lt hn).symm, hmore]
    rfl

lemma entries_foldl_insert (table : Table α) {entries : List (String × α)}
    (h : (table.entries ++ entries).Pairwise fun a b => a.1 < b.1) :
    (entries.foldl (fun t e => t.insert e.1 e.2) table).entries = table.entries ++ entries := by
  induction entries generalizing table with
  | nil => simp
  | cons first more ih =>
    have hbefore : ∀ entry ∈ table.entries, entry.1 < first.1 := fun entry he =>
      (List.pairwise_append.mp h).2.2 entry he first List.mem_cons_self
    have hinsert : (table.insert first.1 first.2).entries = table.entries ++ [first] :=
      insertEntry_append hbefore
    rw [List.foldl_cons, ih, hinsert, List.append_assoc, List.singleton_append]
    rwa [hinsert, List.append_assoc, List.singleton_append]

lemma ofList_entries (table : Table α) : Table.ofList table.entries = table := by
  have h : (Table.ofList table.entries).entries = table.entries :=
    entries_foldl_insert .empty table.ascending
  cases table
  cases hlist : Table.ofList _
  simp_all

lemma decode_table [Coded α] {table : Table α}
    (h : ∀ entry ∈ table.entries, decode? (encode entry.2) = some entry.2) :
    decode? (encode table) = some table := by
  have hentries := mapM_map (f := fun member => do return (member.1, ← decode? member.2))
    (g := fun entry : String × α => (entry.1, encode entry.2))
    fun entry (hentry : entry ∈ table.entries) => by simp [h entry hentry]
  refine (congrArg (Option.bind · fun entries => some (Table.ofList entries)) hentries).trans ?_
  rw [Option.bind_some, ofList_entries]

instance [Coded α] [LawfulCoded α] : LawfulCoded (Table α) where
  decode_encode _ := decode_table fun entry _ => decode_encode entry.2

end Microworlds.Proofs

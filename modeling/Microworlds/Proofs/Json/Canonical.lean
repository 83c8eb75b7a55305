import Microworlds.Proofs.Codec.Tolerance
import Mathlib.Logic.Relation

/-!
# The canonical arrangement of values

The canonical arrangement of a value is one that is arranged already, and values that differ in the
order of the members of their objects have the same one, as long as no key stands twice.
-/

namespace Microworlds.Proofs

variable {α : Type}

/-- What holds of a value if it holds of its parts holds of every value. -/
@[elab_as_elim]
theorem json_induction {motive : Json → Prop} (null : motive .null) (bool : ∀ b, motive (.bool b))
    (int : ∀ n, motive (.int n)) (float : ∀ x, motive (.float x)) (str : ∀ s, motive (.str s))
    (arr : ∀ items, (∀ item ∈ items, motive item) → motive (.arr items))
    (obj : ∀ members, (∀ member ∈ members, motive member.2) → motive (.obj members))
    (flawed : motive .flawed) : ∀ value, motive value
  | .null => null
  | .bool b => bool b
  | .int n => int n
  | .float x => float x
  | .str s => str s
  | .arr items => arr items fun item _ =>
    json_induction null bool int float str arr obj flawed item
  | .obj members => obj members fun member hmember =>
    have : sizeOf member.2 < 1 + sizeOf members := by
      have hmem := List.sizeOf_lt_of_mem hmember
      have hpair : sizeOf member = 1 + sizeOf member.1 + sizeOf member.2 := by cases member; rfl
      omega
    json_induction null bool int float str arr obj flawed member.2
  | .flawed => flawed

/-! ### Tables -/

lemma insertEntry_perm {name : String} {value : α} {entries : List (String × α)}
    (h : name ∉ entries.map (·.1)) :
    (Table.insertEntry name value entries).Perm ((name, value) :: entries) := by
  induction entries with
  | nil => exact .refl _
  | cons first more ih =>
    obtain ⟨n, v⟩ := first
    simp only [List.map_cons, List.mem_cons, not_or] at h
    obtain ⟨hne, hmore⟩ := h
    unfold Table.insertEntry
    split
    · exact .refl _
    · exact ((ih hmore).cons _).trans (.swap _ _ _)

lemma foldl_insert_perm (table : Table α) {entries : List (String × α)}
    (h : ((table.entries ++ entries).map (·.1)).Nodup) :
    (entries.foldl (fun t e => t.insert e.1 e.2) table).entries.Perm (table.entries ++ entries) := by
  induction entries generalizing table with
  | nil => simp
  | cons first more ih =>
    have hfirst : first.1 ∉ table.entries.map (·.1) := by
      rw [List.map_append, List.map_cons, List.nodup_append] at h
      exact fun hmem => h.2.2 _ hmem _ List.mem_cons_self rfl
    have hinsert : (table.insert first.1 first.2).entries.Perm (first :: table.entries) :=
      insertEntry_perm hfirst
    have hmoved : ((table.insert first.1 first.2).entries ++ more).Perm
        (table.entries ++ first :: more) :=
      (hinsert.append_right more).trans List.perm_middle.symm
    refine (ih (table.insert first.1 first.2) ?_).trans hmoved
    exact (hmoved.map _).nodup_iff.mpr h

lemma ofList_perm {entries : List (String × α)} (h : (entries.map (·.1)).Nodup) :
    (Table.ofList entries).entries.Perm entries :=
  foldl_insert_perm .empty h

lemma mem_ofList {entries : List (String × α)} {entry : String × α}
    (h : entry ∈ (Table.ofList entries).entries) : entry ∈ entries := by
  have hfold : ∀ table : Table α, entry ∈ (entries.foldl (fun t e => t.insert e.1 e.2) table).entries →
      entry ∈ table.entries ∨ entry ∈ entries := by
    clear h
    induction entries with
    | nil => exact fun table hmem => .inl hmem
    | cons first more ih =>
      intro table hmem
      rcases ih _ hmem with hbefore | hmore
      · rcases Table.mem_insertEntry hbefore with rfl | htable
        · exact .inr List.mem_cons_self
        · exact .inl htable
      · exact .inr (List.mem_cons_of_mem _ hmore)
  exact (hfold .empty h).resolve_left List.not_mem_nil

lemma ofList_congr {entries others : List (String × α)} (h : entries.Perm others)
    (hnodup : (entries.map (·.1)).Nodup) : Table.ofList entries = Table.ofList others := by
  have hothers : (others.map (·.1)).Nodup := (h.map _).nodup_iff.mp hnodup
  have hperm : (Table.ofList entries).entries.Perm (Table.ofList others).entries :=
    (ofList_perm hnodup).trans (h.trans (ofList_perm hothers).symm)
  have heq : (Table.ofList entries).entries = (Table.ofList others).entries := by
    refine hperm.eq_of_pairwise ?_ (Table.ofList entries).ascending (Table.ofList others).ascending
    exact fun a b _ _ hab hba => absurd hba (String.lt_asymm hab)
  rw [← ofList_entries (Table.ofList entries), heq, ofList_entries]

variable {entries : List (String × α)} {entry : String × α} {key : String}

lemma filter_of_nodup (hnodup : (entries.map (·.1)).Nodup) (hentry : entry ∈ entries) :
    entries.filter (·.1 == entry.1) = [entry] := by
  induction entries with
  | nil => exact absurd hentry List.not_mem_nil
  | cons first more ih =>
    rw [List.map_cons, List.nodup_cons] at hnodup
    obtain ⟨hfirst, hmore⟩ := hnodup
    have hother : ∀ other ∈ more, other.1 ≠ first.1 := fun other hmem heq =>
      hfirst (heq ▸ List.mem_map_of_mem hmem)
    rcases List.mem_cons.mp hentry with rfl | hmem
    · have hnone : more.filter (·.1 == entry.1) = [] := by simpa using hother
      simp [hnone]
    · have hne : ¬ first.1 = entry.1 := (hother entry hmem).symm
      simp [hne, ih hmore hmem]

lemma nodup_names (table : Table α) : (table.entries.map (·.1)).Nodup :=
  List.pairwise_map.mpr (table.ascending.imp fun h => String.ne_of_lt h)

lemma mem_insertEntry_self (name : String) (value : α) (entries : List (String × α)) :
    (name, value) ∈ Table.insertEntry name value entries := by
  fun_induction Table.insertEntry name value entries <;> simp [*]

lemma filter_insertEntry {name : String} (hne : name ≠ key) (value : α) (entries : List (String × α)) :
    (Table.insertEntry name value entries).filter (·.1 == key) = entries.filter (·.1 == key) := by
  fun_induction Table.insertEntry name value entries <;> simp_all [List.filter_cons]

lemma filter_insert (table : Table α) (name key : String) (value : α) :
    (table.insert name value).entries.filter (·.1 == key) =
      if name = key then [(name, value)] else table.entries.filter (·.1 == key) := by
  split
  · next h =>
    subst h
    exact filter_of_nodup (nodup_names (table.insert name value)) (mem_insertEntry_self name value _)
  · next h => exact filter_insertEntry h value table.entries

lemma filter_foldl_of_lacks (table : Table α) (h : entries.filter (·.1 == key) = []) :
    (entries.foldl (fun t e => t.insert e.1 e.2) table).entries.filter (·.1 == key) =
      table.entries.filter (·.1 == key) := by
  induction entries generalizing table with
  | nil => rfl
  | cons first more ih =>
    simp only [List.filter_eq_nil_iff, List.forall_mem_cons, beq_iff_eq] at h
    rw [List.foldl_cons, ih _ (by simpa using h.2), filter_insert, if_neg h.1]

lemma filter_foldl_of_holds (table : Table α) (h : entries.filter (·.1 == key) = [entry]) :
    (entries.foldl (fun t e => t.insert e.1 e.2) table).entries.filter (·.1 == key) = [entry] := by
  induction entries generalizing table with
  | nil => exact absurd h (List.cons_ne_nil _ _).symm
  | cons first more ih =>
    rw [List.filter_cons] at h
    rw [List.foldl_cons]
    -- Either the first entry has the name, and then no later one does, or a later one is the only one.
    split at h
    · next hfirst =>
      obtain ⟨rfl, hmore⟩ := List.cons_eq_cons.mp h
      rw [filter_foldl_of_lacks _ hmore, filter_insert, if_pos (eq_of_beq hfirst)]
    · exact ih _ h

/-! ### Arranging a value -/

@[simp] lemma sortedItems_eq (items : List Json) : Json.sortedItems items = items.map Json.sorted := by
  induction items with
  | nil => rfl
  | cons item more ih => rw [Json.sortedItems, ih, List.map_cons]

@[simp] lemma sortedMembers_eq (members : List (String × Json)) :
    Json.sortedMembers members = members.map fun member => (member.1, member.2.sorted) := by
  induction members with
  | nil => rfl
  | cons member more ih => rw [Json.sortedMembers, ih, List.map_cons]

lemma sorted_arr (items : List Json) : (Json.arr items).sorted = .arr (items.map Json.sorted) := by
  rw [Json.sorted, sortedItems_eq]

lemma sorted_obj (members : List (String × Json)) : (Json.obj members).sorted =
    .obj (Table.ofList (members.map fun member => (member.1, member.2.sorted))).entries := by
  rw [Json.sorted, sortedMembers_eq]

lemma sorted_ascending {members : List (String × Json)}
    (hkeys : members.Pairwise fun a b => a.1 < b.1)
    (hvalues : ∀ member ∈ members, member.2.sorted = member.2) :
    (Json.obj members).sorted = .obj members := by
  have hsame : members.map (fun member => (member.1, member.2.sorted)) = members := by
    refine (List.map_congr_left fun member hmember => ?_).trans (List.map_id' _)
    rw [hvalues member hmember]
  rw [sorted_obj, hsame]
  exact congrArg Json.obj (entries_foldl_insert .empty hkeys)

@[simp] lemma sorted_sorted (value : Json) : value.sorted.sorted = value.sorted := by
  induction value using json_induction with
  | arr items ih =>
    rw [sorted_arr, sorted_arr, List.map_map]
    exact congrArg Json.arr (List.map_congr_left ih)
  | obj members ih =>
    rw [sorted_obj]
    refine sorted_ascending (Table.ascending _) fun entry hentry => ?_
    obtain ⟨member, hmember, rfl⟩ := List.mem_map.mp (mem_ofList hentry)
    exact ih member hmember
  | _ => rfl

/-! ### Members in another order -/

/-- Two values of which one has the members of one object, at any depth, in another order. -/
inductive Reordered : Json → Json → Prop where
  | members {members others : List (String × Json)} (h : members.Perm others)
    (hnodup : (members.map (·.1)).Nodup) : Reordered (.obj members) (.obj others)
  | item (before after : List Json) {value other : Json} (h : Reordered value other) :
    Reordered (.arr (before ++ value :: after)) (.arr (before ++ other :: after))
  | member (before after : List (String × Json)) (key : String) {value other : Json}
    (h : Reordered value other) :
    Reordered (.obj (before ++ (key, value) :: after)) (.obj (before ++ (key, other) :: after))

/-- Two values that differ in the order of the members of their objects, none of which has a key twice
where its order differs. -/
abbrev Rearranged : Json → Json → Prop :=
  Relation.ReflTransGen Reordered

variable {value other : Json}

lemma Reordered.sorted_eq (h : Reordered value other) : value.sorted = other.sorted := by
  induction h with
  | @members members others hperm hnodup =>
    rw [sorted_obj, sorted_obj, ofList_congr (hperm.map _)]
    rwa [List.map_map]
  | item before after h ih =>
    rw [sorted_arr, sorted_arr, List.map_append, List.map_append, List.map_cons, List.map_cons, ih]
  | member before after key h ih =>
    simp only [sorted_obj, List.map_append, List.map_cons, ih]

lemma Rearranged.sorted_eq (h : Rearranged value other) : value.sorted = other.sorted := by
  induction h with
  | refl => rfl
  | tail _ hstep ih => exact ih.trans hstep.sorted_eq

lemma soundItems_iff {items : List Json} :
    Json.soundItems items = true ↔ ∀ item ∈ items, item.sound = true := by
  refine ⟨fun h => ?_, soundItems_of_forall⟩
  induction items with
  | nil => exact fun _ hmem => absurd hmem List.not_mem_nil
  | cons item more ih =>
    rw [Json.soundItems, Bool.and_eq_true] at h
    exact List.forall_mem_cons.mpr ⟨h.1, ih h.2⟩

lemma soundMembers_iff {members : List (String × Json)} :
    Json.soundMembers members = true ↔ ∀ member ∈ members, member.2.sound = true := by
  refine ⟨fun h => ?_, soundMembers_of_forall⟩
  induction members with
  | nil => exact fun _ hmem => absurd hmem List.not_mem_nil
  | cons member more ih =>
    rw [Json.soundMembers, Bool.and_eq_true] at h
    exact List.forall_mem_cons.mpr ⟨h.1, ih h.2⟩

lemma sound_sorted (value : Json) (h : value.sound = true) : value.sorted.sound = true := by
  induction value using json_induction with
  | arr items ih =>
    rw [Json.sound, soundItems_iff] at h
    rw [sorted_arr, Json.sound, soundItems_iff]
    exact List.forall_mem_map.mpr fun item hitem => ih item hitem (h item hitem)
  | obj members ih =>
    rw [Json.sound, soundMembers_iff] at h
    rw [sorted_obj, Json.sound, soundMembers_iff]
    intro entry hentry
    obtain ⟨member, hmember, rfl⟩ := List.mem_map.mp (mem_ofList hentry)
    exact ih member hmember (h member hmember)
  | _ => exact h

lemma Reordered.sound_iff (h : Reordered value other) :
    value.sound = true ↔ other.sound = true := by
  induction h with
  | members hperm hnodup =>
    simp only [Json.sound, soundMembers_iff]
    exact ⟨fun h member hmem => h member (hperm.mem_iff.mpr hmem),
      fun h member hmem => h member (hperm.mem_iff.mp hmem)⟩
  | item before after h ih =>
    simp only [Json.sound, soundItems_iff, List.forall_mem_append, List.forall_mem_cons, ih]
  | member before after key h ih =>
    simp only [Json.sound, soundMembers_iff, List.forall_mem_append, List.forall_mem_cons, ih]

/-- What is made of a value that has to be sound, and is arranged first, does not depend on an order. -/
lemma Reordered.whole?_eq (h : Reordered value other) :
    value.whole?.map Json.sorted = other.whole?.map Json.sorted := by
  unfold Json.whole?
  by_cases hsound : value.sound = true
  · rw [if_pos hsound, if_pos (h.sound_iff.mp hsound), Option.map_some, Option.map_some, h.sorted_eq]
  · rw [if_neg hsound, if_neg (mt h.sound_iff.mpr hsound)]

/-! ### Fields of reordered records -/

lemma member?_perm {members others : List (String × Json)} (h : members.Perm others)
    (hnodup : (members.map (·.1)).Nodup) (key : String) :
    Json.member? members key = Json.member? others key := by
  by_cases hkey : ∃ member ∈ members, member.1 = key
  · obtain ⟨member, hmem, rfl⟩ := hkey
    rw [member?_of_mem hnodup hmem,
      member?_of_mem ((h.map _).nodup_iff.mp hnodup) (h.mem_iff.mp hmem)]
  · have hnone : ∀ list : List (String × Json), list.Perm members → Json.member? list key = none := by
      intro list hlist
      apply member?_eq_none
      rw [Json.occurrences, List.countP_eq_zero]
      intro member hmember hname
      exact hkey ⟨member, hlist.mem_iff.mp hmember, eq_of_beq hname⟩
    rw [hnone members (.refl _), hnone others h.symm]

lemma openFields?_perm {members others : List (String × Json)} (h : members.Perm others)
    (hnodup : (members.map (·.1)).Nodup) (least : Nat) (names : List String) :
    (Json.obj members).openFields? least names = (Json.obj others).openFields? least names := by
  have hcount : Json.occurrences members = Json.occurrences others :=
    funext fun name => h.countP_eq _
  have hfound : Json.member? members = Json.member? others :=
    funext fun name => member?_perm h hnodup name
  rw [Json.openFields?, Json.openFields?, hcount, hfound]

end Microworlds.Proofs

import Microworlds.Json.Printer
import Microworlds.Proofs.Json.Texts

/-!
# Values as they are written

What is written of a value, without any space or spread out over lines, is one of its texts, so it is
read as the value.
-/

namespace Microworlds.Proofs

variable {space : List Char}

/-- A value with at most the given number of levels, without flawed parts and floating-point numbers,
whose whole numbers fit 64 bits. -/
inductive Exact : Nat → Json → Prop where
  | null {n : Nat} : Exact n .null
  | bool {n : Nat} (b : Bool) : Exact n (.bool b)
  | int {n : Nat} (i : Int) (hleast : -(Word.leastSigned : Int) ≤ i)
    (hgreatest : i ≤ Word.greatest64) : Exact n (.int i)
  | str {n : Nat} (s : String) : Exact n (.str s)
  | arr {n : Nat} (items : List Json) (h : ∀ item ∈ items, Exact n item) : Exact (n + 1) (.arr items)
  | obj {n : Nat} (members : List (String × Json)) (h : ∀ member ∈ members, Exact n member.2) :
    Exact (n + 1) (.obj members)

variable {n : Nat} {value : Json}

lemma Exact.fits (h : Exact n value) : Fits (fun _ => False) n value := by
  induction h with
  | null => exact .null
  | bool b => exact .bool b
  | int i => exact .int i
  | str s => exact .str s
  | arr items h ih => exact .arr items ih
  | obj members h ih => exact .obj members ih

lemma Exact.sorted (h : Exact n value) : Exact n value.sorted := by
  induction h with
  | arr items h ih =>
    rw [sorted_arr]
    exact .arr _ (List.forall_mem_map.mpr ih)
  | obj members h ih =>
    rw [sorted_obj]
    refine .obj _ fun entry hentry => ?_
    obtain ⟨member, hmember, rfl⟩ := List.mem_map.mp (mem_ofList hentry)
    exact ih member hmember
  | null => exact .null
  | bool b => exact .bool b
  | int i hleast hgreatest => exact .int i hleast hgreatest
  | str s => exact .str s

lemma exact_nat {i : Nat} (h : i ≤ Word.greatest64) : Exact n (encode i) :=
  .int i (by omega) (Int.ofNat_le.mpr h)

lemma exact_uint64 (i : UInt64) : Exact n (encode i) :=
  exact_nat (Nat.le_of_lt_succ i.toNat_lt_size)

lemma exact_uint32 (i : UInt32) : Exact n (encode i) :=
  exact_nat (Nat.le_trans (Nat.le_of_lt_succ i.toNat_lt_size) (by decide))

lemma exact_int64 (i : Int64) : Exact n (encode i) := by
  have hleast := i.le_toInt
  have hgreatest := i.toInt_lt
  refine .int i.toInt ?_ ?_
  · simp only [Word.leastSigned]
    omega
  · simp only [Word.greatest64]
    omega

lemma toList_quote (s : String) :
    (Json.quote s).toList = '"' :: (s.toList.flatMap Json.escaped ++ ['"']) := by
  rw [Json.quote, String.toList_ofList]

lemma space_newline (depth : Nat) : Space (Json.newline depth).toList := by
  intro c hc
  rw [Json.newline, String.toList_ofList, List.mem_cons] at hc
  obtain rfl | hc := hc
  · rfl
  · rw [List.eq_of_mem_replicate hc]
    rfl

lemma toList_comma : ",".toList = [','] :=
  rfl

lemma toList_compactItems (items : List Json) : (Json.compactItems items).toList =
    [','].intercalate (items.map fun item => item.compact.toList) := by
  induction items with
  | nil => rfl
  | cons item more ih =>
    cases more with
    | nil => rw [Json.compactItems, List.map_singleton, List.intercalate_singleton]
    | cons next others =>
      rw [intercalate_map_cons, Json.compactItems]
      · simp only [String.toList_append, toList_comma, ih]
      · exact List.cons_ne_nil _ _

lemma toList_prettyItems (depth : Nat) (items : List Json) : (Json.prettyItems depth items).toList =
    [','].intercalate
      (items.map fun item => (Json.newline depth).toList ++ (item.pretty depth).toList) := by
  induction items with
  | nil => rfl
  | cons item more ih =>
    cases more with
    | nil => rw [Json.prettyItems, String.toList_append, List.map_singleton, List.intercalate_singleton]
    | cons next others =>
      rw [intercalate_map_cons, Json.prettyItems]
      · simp only [String.toList_append, toList_comma, ih]
      · exact List.cons_ne_nil _ _

/-- A member as it is written: its key, a colon with white space behind it, and its value. -/
def memberText (space gap : List Char) (write : Json → String)
    (member : String × Json) : MemberText where
  before := space
  key := member.1
  name := member.1.toList.flatMap Json.escaped
  gap := []
  item := ⟨gap, member.2, (write member.2).toList, []⟩

lemma spaced_memberText {gap : List Char} (hspace : Space space) (hgap : Space gap)
    (write : Json → String) (member : String × Json) : (memberText space gap write member).Spaced where
  before := hspace
  gap := space_nil
  item := ⟨hgap, space_nil⟩
  name := flatMap_escaped_text _

lemma toList_compactMembers (members : List (String × Json)) : (Json.compactMembers members).toList =
    [','].intercalate
      (members.map fun member => (memberText [] [] Json.compact member).whole) := by
  induction members with
  | nil => rfl
  | cons member more ih =>
    have hcolon : ":".toList = [':'] := rfl
    cases more with
    | nil =>
      rw [Json.compactMembers, List.map_singleton, List.intercalate_singleton]
      simp [toList_quote, hcolon, memberText, MemberText.whole, ItemText.whole]
    | cons next others =>
      rw [intercalate_map_cons, Json.compactMembers]
      · simp [toList_quote, toList_comma, hcolon, memberText, MemberText.whole, ItemText.whole, ih]
      · exact List.cons_ne_nil _ _

lemma toList_prettyMembers (depth : Nat) (members : List (String × Json)) :
    (Json.prettyMembers depth members).toList = [','].intercalate (members.map fun member =>
      (memberText (Json.newline depth).toList [' '] (Json.pretty depth) member).whole) := by
  induction members with
  | nil => rfl
  | cons member more ih =>
    have hcolon : ": ".toList = [':', ' '] := rfl
    cases more with
    | nil =>
      rw [Json.prettyMembers, List.map_singleton, List.intercalate_singleton]
      simp [toList_quote, hcolon, memberText, MemberText.whole, ItemText.whole]
    | cons next others =>
      rw [intercalate_map_cons, Json.prettyMembers]
      · simp [toList_quote, toList_comma, hcolon, memberText, MemberText.whole, ItemText.whole, ih]
      · exact List.cons_ne_nil _ _

lemma TextOf.written_arr {items : List Json} {write : Json → String} {before after : List Char}
    (hbefore : Space before) (hafter : Space after)
    (h : ∀ item ∈ items, TextOf item (write item).toList) :
    TextOf (.arr items) ('[' :: ([','].intercalate
      (items.map fun item => before ++ (write item).toList) ++ after ++ [']'])) := by
  have htext := TextOf.arr (items.map fun item => ⟨before, item, (write item).toList, []⟩) after
    hafter (List.forall_mem_map.mpr fun _ _ => ⟨hbefore, space_nil⟩) (List.forall_mem_map.mpr h)
  simpa only [List.map_map, Function.comp_def, ItemText.whole, List.append_nil, List.map_id'] using
    htext

lemma TextOf.written_obj {members : List (String × Json)} {write : Json → String}
    {before gap after : List Char} (hbefore : Space before) (hgap : Space gap) (hafter : Space after)
    (h : ∀ member ∈ members, TextOf member.2 (write member.2).toList) :
    TextOf (.obj members) ('\x7b' :: ([','].intercalate
      (members.map fun member => (memberText before gap write member).whole) ++ after ++ ['\x7d'])) := by
  have htext := TextOf.obj (members.map (memberText before gap write)) after hafter
    (List.forall_mem_map.mpr fun member _ => spaced_memberText hbefore hgap write member)
    (List.forall_mem_map.mpr h)
  simpa only [List.map_map, Function.comp_def, MemberText.member, memberText, List.map_id'] using
    htext

theorem compact_text (h : Exact n value) : TextOf value value.compact.toList := by
  induction h with
  | null => exact .null
  | bool b => cases b with
    | true => exact .true
    | false => exact .false
  | int i hleast hgreatest =>
    rw [Json.compact, toList_toString_int]
    exact .int i hleast hgreatest
  | str s =>
    rw [Json.compact, toList_quote]
    exact .str s _ (flatMap_escaped_text _)
  | arr items h ih =>
    rw [Json.compact, String.toList_append, String.toList_append, toList_compactItems]
    have htext := TextOf.written_arr space_nil space_nil ih
    rw [List.append_nil] at htext
    exact htext
  | obj members h ih =>
    rw [Json.compact, String.toList_append, String.toList_append, toList_compactMembers]
    have htext := TextOf.written_obj space_nil space_nil space_nil ih
    rw [List.append_nil] at htext
    exact htext

theorem pretty_text (h : Exact n value) (depth : Nat) :
    TextOf value (value.pretty depth).toList := by
  induction h generalizing depth with
  | arr items h ih =>
    cases items with
    | nil =>
      rw [Json.pretty]
      exact .arr [] [] space_nil nofun nofun
    | cons first more =>
      rw [Json.pretty, String.toList_append, String.toList_append, String.toList_append,
        toList_prettyItems]
      · exact .written_arr (space_newline _) (space_newline _) fun item hitem => ih item hitem _
      · exact List.cons_ne_nil _ _
  | obj members h ih =>
    cases members with
    | nil =>
      rw [Json.pretty]
      exact .obj [] [] space_nil nofun nofun
    | cons first more =>
      rw [Json.pretty, String.toList_append, String.toList_append, String.toList_append,
        toList_prettyMembers]
      · have hspace : Space [' '] := List.forall_mem_singleton.mpr rfl
        exact .written_obj (space_newline _) hspace (space_newline _) fun member hmember =>
          ih member hmember _
      · exact List.cons_ne_nil _ _
  | null => exact compact_text (n := 0) .null
  | bool b => exact compact_text (n := 0) (.bool b)
  | int i hleast hgreatest => exact compact_text (n := 0) (.int i hleast hgreatest)
  | str s => exact compact_text (n := 0) (.str s)

end Microworlds.Proofs

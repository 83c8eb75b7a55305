import Microworlds.Proofs.Codec.States

/-!
# Members that count for nothing

A record in JSON is read as before when it has one more member with an unknown key, or one less
with `null` for an optional field, and so is a value that has such a record inside of it. A type
is tolerant if it has a relation between the forms of which this holds.
-/

namespace Microworlds.Proofs

variable {α β : Type}

/-- What the first reading gives, the second one gives as well. -/
def Preserved (reading again : Option α) : Prop :=
  ∀ a, reading = some a → again = some a

lemma Preserved.refl (reading : Option α) : Preserved reading reading :=
  fun _ h => h

lemma Preserved.bind {reading again : Option α} {f g : α → Option β} (h : Preserved reading again)
    (hrest : ∀ a, Preserved (f a) (g a)) : Preserved (reading >>= f) (again >>= g) := by
  intro b hb
  obtain ⟨a, ha, hb⟩ := Option.bind_eq_some_iff.1 hb
  exact Option.bind_eq_some_iff.2 ⟨a, h a ha, hrest a b hb⟩

lemma Preserved.map {reading again : Option α} (h : Preserved reading again) (f : α → β) :
    Preserved (reading.map f) (again.map f) := by
  intro b hb
  obtain ⟨a, ha, rfl⟩ := Option.map_eq_some_iff.1 hb
  exact Option.map_eq_some_iff.2 ⟨a, h a ha, rfl⟩

/-- How the form of a value may change in one place. -/
class Tolerant (α : Type) [Coded α] where
  Step : Json → Json → Prop
  decode_step : ∀ {value changed : Json}, Step value changed →
    Preserved (decode? (α := α) value) (decode? changed)

export Tolerant (decode_step)

/-- A member of a record. -/
structure Field where
  name : String
  /-- Whether it may be missing where it could be `null`. -/
  optional : Bool
  /-- How its value may change. -/
  Step : Json → Json → Prop

def Field.required (name : String) (α : Type) [Coded α] [Tolerant α] : Field :=
  ⟨name, false, Tolerant.Step α⟩

/-- One change among the members of a record. -/
inductive MemberStep (fields : List Field) :
    List (String × Json) → List (String × Json) → Prop where
  | unknown (before after : List (String × Json)) (key : String) (value : Json)
    (hkey : ∀ field ∈ fields, field.name ≠ key) :
    MemberStep fields (before ++ after) (before ++ (key, value) :: after)
  | absent (before after : List (String × Json)) (field : Field) (hfield : field ∈ fields)
    (hoptional : field.optional = true) :
    MemberStep fields (before ++ (field.name, .null) :: after) (before ++ after)
  | inside (before after : List (String × Json)) (field : Field) (hfield : field ∈ fields)
    {value changed : Json} (hstep : field.Step value changed) :
    MemberStep fields (before ++ (field.name, value) :: after)
      (before ++ (field.name, changed) :: after)

/-- One change of a record. -/
inductive RecordStep (fields : List Field) : Json → Json → Prop where
  | obj {members changed : List (String × Json)} (h : MemberStep fields members changed) :
    RecordStep fields (.obj members) (.obj changed)

/-! ### What is found in a changed record -/

/-- What is found for a field before and after a change. -/
def Field.Changed (field : Field) (found again : Option Json) : Prop :=
  again = found ∨ (field.optional = true ∧ found = some .null ∧ again = none) ∨
    ∃ value changed, field.Step value changed ∧ found = some value ∧ again = some changed

variable {before after : List (String × Json)} {key name : String} {value : Json}

lemma occurrences_insert : Json.occurrences (before ++ (key, value) :: after) name =
    Json.occurrences (before ++ after) name + if key = name then 1 else 0 := by
  simp only [Json.occurrences, List.countP_append, List.countP_cons, beq_iff_eq]
  omega

lemma member?_insert (h : key ≠ name) :
    Json.member? (before ++ (key, value) :: after) name = Json.member? (before ++ after) name := by
  simp [Json.member?, List.find?_append, h]

lemma member?_eq_none {members : List (String × Json)} (h : Json.occurrences members key = 0) :
    Json.member? members key = none := by
  rw [Json.occurrences, List.countP_eq_zero] at h
  rw [Json.member?, Option.map_eq_none_iff, List.find?_eq_none]
  exact fun member hmember => h member (List.mem_reverse.1 hmember)

lemma member?_inserted (h : Json.occurrences (before ++ (key, value) :: after) key ≤ 1) :
    Json.member? (before ++ (key, value) :: after) key = some value ∧
      Json.occurrences (before ++ after) key = 0 := by
  rw [occurrences_insert, if_pos rfl] at h
  have hzero : Json.occurrences (before ++ after) key = 0 := by omega
  refine ⟨?_, hzero⟩
  have hafter : after.reverse.find? (·.1 == key) = none := by
    rw [Json.occurrences, List.countP_append] at hzero
    have hcount : after.countP (·.1 == key) = 0 := by omega
    rw [List.countP_eq_zero] at hcount
    rw [List.find?_eq_none]
    exact fun member hmember => hcount member (List.mem_reverse.1 hmember)
  simp [Json.member?, List.find?_append, hafter]

/-- A change leaves every field once at most, and what is found for it as it was or changed. -/
lemma MemberStep.field_changed {fields : List Field} {members changed : List (String × Json)}
    (hnodup : (fields.map (·.name)).Nodup) (h : MemberStep fields members changed)
    {field : Field} (hfield : field ∈ fields) (honce : Json.occurrences members field.name ≤ 1) :
    Json.occurrences changed field.name ≤ 1 ∧
      field.Changed (Json.member? members field.name) (Json.member? changed field.name) := by
  cases h with
  | unknown before after key value hkey =>
    have hne := (hkey field hfield).symm
    rw [occurrences_insert, if_neg hne, member?_insert hne]
    exact ⟨honce, .inl rfl⟩
  | absent before after other hother hoptional =>
    by_cases hname : other.name = field.name
    · obtain rfl := List.inj_on_of_nodup_map hnodup hother hfield hname
      obtain ⟨hfound, hzero⟩ := member?_inserted honce
      rw [hfound, member?_eq_none hzero, hzero]
      exact ⟨Nat.zero_le 1, .inr (.inl ⟨hoptional, rfl, rfl⟩)⟩
    · rw [occurrences_insert, if_neg hname] at honce
      rw [member?_insert hname]
      exact ⟨honce, .inl rfl⟩
  | @inside before after other hother value changed hstep =>
    by_cases hname : other.name = field.name
    · obtain rfl := List.inj_on_of_nodup_map hnodup hother hfield hname
      have hagain : Json.occurrences (before ++ (other.name, changed) :: after) other.name ≤ 1 := by
        rw [occurrences_insert] at honce ⊢
        exact honce
      rw [(member?_inserted honce).1, (member?_inserted hagain).1]
      exact ⟨hagain, .inr (.inr ⟨value, changed, hstep, rfl, rfl⟩)⟩
    · rw [occurrences_insert, if_neg hname] at honce ⊢
      rw [member?_insert hname, member?_insert hname]
      exact ⟨honce, .inl rfl⟩

/-- A record is read as before after a change, if its reading from what is found for its fields does
not depend on the change of any of them. -/
lemma record_step {fields : List Field} {least : Nat} {read : Json → Option α}
    {make : List (Option Json) → Option α} (hnodup : (fields.map (·.name)).Nodup)
    (hread : ∀ members, read (.obj members) =
      ((Json.obj members).openFields? least (fields.map (·.name))).bind make)
    (hmake : ∀ found again : String → Option Json,
      (∀ field ∈ fields, field.Changed (found field.name) (again field.name)) →
        Preserved (make (fields.map fun field => found field.name))
          (make (fields.map fun field => again field.name)))
    {value changed : Json} (h : RecordStep fields value changed) :
    Preserved (read value) (read changed) := by
  obtain ⟨h⟩ := h
  rename_i members changed
  rw [hread, hread]
  intro a ha
  obtain ⟨found, hopen, ha⟩ := Option.bind_eq_some_iff.1 ha
  rw [Json.openFields?] at hopen
  split at hopen
  · cases hopen
  · next honce =>
    cases hopen
    have hfields : ∀ field ∈ fields, Json.occurrences changed field.name ≤ 1 ∧
        field.Changed (Json.member? members field.name) (Json.member? changed field.name) := by
      intro field hfield
      refine h.field_changed hnodup hfield ?_
      simpa using fun hmany => honce (List.any_eq_true.2
        ⟨field.name, List.mem_map_of_mem hfield, decide_eq_true hmany⟩)
    have hagain : ¬ ((fields.map (·.name)).any fun name => 1 < Json.occurrences changed name) := by
      rw [List.any_map, List.any_eq_true]
      rintro ⟨field, hfield, hmany⟩
      exact absurd (of_decide_eq_true hmany) (Nat.not_lt.2 (hfields field hfield).1)
    rw [Json.openFields?, if_neg hagain, Option.bind_some, List.map_map]
    rw [List.map_map] at ha
    exact hmake (Json.member? members) (Json.member? changed)
      (fun field hfield => (hfields field hfield).2) a ha

lemma mapM_step {γ : Type} {read : γ → Option β} (before after : List γ) {value changed : γ}
    (h : Preserved (read value) (read changed)) :
    Preserved ((before ++ value :: after).mapM read) ((before ++ changed :: after).mapM read) := by
  simp only [List.mapM_append, List.mapM_cons]
  refine (Preserved.refl _).bind fun _ => Preserved.bind ?_ fun _ => .refl _
  exact h.bind fun _ => .refl _

/-! ### Fields -/

section

variable [Coded α] [Coded β] [Tolerant α] [Tolerant β]

lemma Field.Changed.field? {name : String} {found again : Option Json}
    (h : (Field.required name α).Changed found again) :
    Preserved (field? (α := α) found) (field? again) := by
  obtain rfl | ⟨hoptional, -, -⟩ | ⟨value, changed, hstep, rfl, rfl⟩ := h
  · exact .refl _
  · cases hoptional
  · exact decode_step hstep

/-- One change of an optional value that is there. -/
inductive OptionStep (step : Json → Json → Prop) : Json → Json → Prop where
  | some {value changed : Json} (hvalue : value ≠ .null) (hchanged : changed ≠ .null)
    (h : step value changed) : OptionStep step value changed

instance : Tolerant (Option α) where
  Step := OptionStep (Tolerant.Step α)
  decode_step := by
    rintro value changed ⟨hvalue, hchanged, h⟩
    rw [decode_some hvalue, decode_some hchanged]
    exact (decode_step h).map some

def Field.optionally (name : String) (α : Type) [Coded α] [Tolerant α] : Field :=
  ⟨name, true, Tolerant.Step (Option α)⟩

lemma Field.Changed.optionalField? {name : String} {found again : Option Json}
    (h : (Field.optionally name α).Changed found again) :
    Preserved (optionalField? (α := α) found) (optionalField? again) := by
  obtain rfl | ⟨-, rfl, rfl⟩ | ⟨value, changed, hstep, rfl, rfl⟩ := h
  · exact .refl _
  · exact .refl _
  · exact decode_step hstep

/-! ### Plain values and values made of others -/

instance : Tolerant Bool := ⟨fun _ _ => False, nofun⟩

instance : Tolerant String := ⟨fun _ _ => False, nofun⟩

instance : Tolerant Nat := ⟨fun _ _ => False, nofun⟩

instance : Tolerant Int64 := ⟨fun _ _ => False, nofun⟩

instance : Tolerant UInt64 := ⟨fun _ _ => False, nofun⟩

instance : Tolerant UInt32 := ⟨fun _ _ => False, nofun⟩

instance : Tolerant Float := ⟨fun _ _ => False, nofun⟩

instance : Tolerant Programming.Value := ⟨fun _ _ => False, nofun⟩

instance : Tolerant Colony.Weather := ⟨fun _ _ => False, nofun⟩

instance : Tolerant AiChat.Mode := ⟨fun _ _ => False, nofun⟩

instance : Tolerant AiChat.Role := ⟨fun _ _ => False, nofun⟩

/-- One change of an item of an array. -/
inductive ItemStep (step : Json → Json → Prop) : Json → Json → Prop where
  | item (before after : List Json) {value changed : Json} (h : step value changed) :
    ItemStep step (.arr (before ++ value :: after)) (.arr (before ++ changed :: after))

instance : Tolerant (List α) where
  Step := ItemStep (Tolerant.Step α)
  decode_step := by
    rintro value changed ⟨before, after, h⟩
    exact mapM_step before after (decode_step h)

/-- One change in a pair. -/
inductive PairStep (first second : Json → Json → Prop) : Json → Json → Prop where
  | first {value changed : Json} (other : Json) (h : first value changed) :
    PairStep first second (.arr [value, other]) (.arr [changed, other])
  | second {value changed : Json} (other : Json) (h : second value changed) :
    PairStep first second (.arr [other, value]) (.arr [other, changed])

instance : Tolerant (α × β) where
  Step := PairStep (Tolerant.Step α) (Tolerant.Step β)
  decode_step := by
    rintro value changed (⟨other, h⟩ | ⟨other, h⟩)
    · exact (decode_step h).bind fun _ => .refl _
    · exact (Preserved.refl _).bind fun _ => (decode_step h).bind fun _ => .refl _

/-- One change of the value of an entry. -/
inductive EntryStep (step : Json → Json → Prop) : Json → Json → Prop where
  | entry (before after : List (String × Json)) (key : String) {value changed : Json}
    (h : step value changed) :
    EntryStep step (.obj (before ++ (key, value) :: after))
      (.obj (before ++ (key, changed) :: after))

instance : Tolerant (Table α) where
  Step := EntryStep (Tolerant.Step α)
  decode_step := by
    rintro value changed ⟨before, after, key, h⟩
    refine Preserved.bind (mapM_step before after ?_) fun _ => .refl _
    exact (decode_step h).bind fun _ => .refl _

end

/-! ### Tagged records -/

/-- The member that settles which fields a record has. It does not change. -/
def tagField (tag : String) : Field :=
  ⟨tag, false, fun _ _ => False⟩

/-- One change of a tagged record, whose fields depend on the value of its tag. -/
inductive TaggedStep (tag : String) (fields : Json → List Field) : Json → Json → Prop where
  | obj {members changed : List (String × Json)} {value : Json}
    (htag : Json.member? members tag = some value)
    (h : MemberStep (tagField tag :: fields value) members changed) :
    TaggedStep tag fields (.obj members) (.obj changed)

lemma MemberStep.without_tag {tag : String} {fields : List Field}
    {members changed : List (String × Json)} (htag : ∀ field ∈ fields, field.name ≠ tag)
    (h : MemberStep (tagField tag :: fields) members changed) :
    MemberStep fields (members.filter (·.1 != tag)) (changed.filter (·.1 != tag)) ∧
      Json.occurrences changed tag = Json.occurrences members tag ∧
      Json.member? changed tag = Json.member? members tag := by
  cases h with
  | unknown before after key value hkey =>
    have hne : key ≠ tag := (hkey _ List.mem_cons_self).symm
    rw [occurrences_insert, if_neg hne, member?_insert hne, List.filter_append, List.filter_append,
      List.filter_cons_of_pos (by simpa using hne)]
    exact ⟨.unknown _ _ key value fun field hfield => hkey field (List.mem_cons_of_mem _ hfield),
      rfl, rfl⟩
  | absent before after field hfield hoptional =>
    obtain rfl | hfield := List.mem_cons.1 hfield
    · cases hoptional
    · have hne := htag field hfield
      rw [occurrences_insert, if_neg hne, member?_insert hne, List.filter_append,
        List.filter_append, List.filter_cons_of_pos (by simpa using hne)]
      exact ⟨.absent _ _ field hfield hoptional, rfl, rfl⟩
  | inside before after field hfield hstep =>
    obtain rfl | hfield := List.mem_cons.1 hfield
    · cases hstep
    · have hne := htag field hfield
      rw [occurrences_insert, occurrences_insert, member?_insert hne, member?_insert hne,
        List.filter_append, List.filter_append, List.filter_cons_of_pos (by simpa using hne),
        List.filter_cons_of_pos (by simpa using hne)]
      exact ⟨.inside _ _ field hfield hstep, rfl, rfl⟩

lemma tagged_step {tag : String} {fields : Json → List Field} {make : Json × Json → Option α}
    (htag : ∀ value, ∀ field ∈ fields value, field.name ≠ tag)
    (hmake : ∀ value body changed, RecordStep (fields value) body changed →
      Preserved (make (value, body)) (make (value, changed)))
    {value changed : Json} (h : TaggedStep tag fields value changed) :
    Preserved ((value.tagged? tag).bind make) ((changed.tagged? tag).bind make) := by
  obtain @⟨members, changed, value, hvalue, h⟩ := h
  obtain ⟨hbody, hcount, hmember⟩ := h.without_tag (htag value)
  rw [Json.tagged?, Json.tagged?, hcount, hmember, hvalue]
  split
  · exact hmake value _ _ ⟨hbody⟩
  · exact .refl _

end Microworlds.Proofs

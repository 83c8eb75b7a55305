import Microworlds.Progress.File
import Microworlds.Proofs.Codec.States
import Microworlds.Proofs.Json.Writing

/-!
# Files of progress are checked by their values

A record that has been saved is loaded again. A file with an envelope is refused for its digest exactly
if the digest is not that of the canonical text of its record, so neither its layout nor the order of its
members matters, and another record is loaded only if its canonical text has the same digest.
-/

namespace Microworlds.Proofs

open Progress

/-- The outcome of loading a file with a text. -/
def loaded (digest : String → String) (text : String) : Except FileError (Option Record) :=
  (Store.file digest).load (some text.toUTF8)

/-- The envelope in a text, if there is one. -/
def envelope? (text : String) : Option Envelope :=
  (Json.read? text).bind decode?

variable {digest : String → String} {text : String} {envelope : Envelope} {value other : Json}

lemma loaded_eq (digest : String → String) (text : String) : loaded digest text =
    match envelope? text with
    | some envelope => (envelope.verify digest).map some
    | none => .error .unreadable := by
  have htext : String.fromUTF8? text.toUTF8 = some text := by
    rw [String.fromUTF8?, String.toUTF8_eq_toByteArray, dif_pos text.isValidUTF8]
    rfl
  have hload : loaded digest text = (File.readBytes digest text.toUTF8).map some := rfl
  rw [hload, File.readBytes, htext]
  change (File.read digest text).map some = _
  rw [File.read, ← envelope?.eq_1]
  cases envelope? text <;> rfl

/-! ### The canonical text of a record -/

@[simp] lemma canonical_sorted (value : Json) : canonical value.sorted = canonical value := by
  rw [canonical, canonical, sorted_sorted]

lemma canonical_encode_envelope (digest : String → String) (record : Record) :
    (Envelope.ofRecord digest record).checksum = digest (canonical (encode record)) :=
  congrArg digest (canonical_sorted _)

/-! ### Envelopes with their members in another order -/

/-- What an envelope takes of a field: its text, and its value in canonical arrangement if it is
sound. -/
def taken (found : Option Json) : Option (Option String × Option Json) :=
  found.map fun value => (decode? value, value.whole?.map Json.sorted)

def envelopeOf : List (Option (Option String × Option Json)) → Option Envelope
  | [some (checksum, _), some (_, record)] => do return ⟨← checksum, ← record⟩
  | _ => none

lemma decode_envelope (value : Json) : decode? (α := Envelope) value =
    ((value.fields? ["checksum", "record"]).map (List.map taken)).bind envelopeOf := by
  change (value.fields? ["checksum", "record"]).bind _ = _
  rw [Option.bind_map]
  congr 1
  funext fields
  rcases fields with _ | ⟨checksum, _ | ⟨record, _ | ⟨third, more⟩⟩⟩
  · rfl
  · cases checksum <;> rfl
  · rcases checksum with _ | checksum
    · rfl
    · rcases record with _ | record
      · rfl
      · change ((decode? checksum).bind fun checksum => record.whole?.bind fun record => _) =
          ((decode? checksum).bind fun checksum => (record.whole?.map Json.sorted).bind fun record => _)
        cases record.whole? <;> rfl
  · rcases checksum with _ | checksum
    · rfl
    · cases record <;> rfl

lemma Reordered.taken_eq (h : Reordered value other) : taken (some value) = taken (some other) := by
  have htext : decode? (α := String) value = decode? other := by
    cases h <;> rfl
  rw [taken, taken, Option.map_some, Option.map_some, htext, h.whole?_eq]

lemma Reordered.fields_eq (h : Reordered value other) (names : List String) :
    (value.fields? names).map (List.map taken) = (other.fields? names).map (List.map taken) := by
  cases h with
  | members hperm hnodup => rw [Json.fields?, Json.fields?, openFields?_perm hperm hnodup]
  | item before after h =>
    simp only [Json.fields?, Json.openFields?, List.length_append, List.length_cons]
    split_ifs
    · simp only [Option.map_some, List.map_append, List.map_cons, h.taken_eq]
    · rfl
  | @member before after key value other h =>
    have hcount : Json.occurrences (before ++ (key, value) :: after) =
        Json.occurrences (before ++ (key, other) :: after) :=
      funext fun name => by rw [occurrences_insert, occurrences_insert]
    simp only [Json.fields?, Json.openFields?, hcount]
    split_ifs with hmany
    · rfl
    · simp only [Option.map_some, List.map_map]
      congr 1
      refine List.map_congr_left fun name hname => ?_
      by_cases hkey : key = name
      · subst hkey
        have honce : Json.occurrences (before ++ (key, other) :: after) key ≤ 1 := by
          simpa using fun h => hmany (List.any_eq_true.mpr ⟨key, hname, decide_eq_true h⟩)
        rw [Function.comp_apply, Function.comp_apply, (member?_inserted honce).1,
          (member?_inserted (hcount ▸ honce)).1, h.taken_eq]
      · rw [Function.comp_apply, Function.comp_apply, member?_insert hkey, member?_insert hkey]

lemma Rearranged.decode_envelope_eq (h : Rearranged value other) :
    decode? (α := Envelope) value = decode? other := by
  induction h with
  | refl => rfl
  | tail _ hstep ih => rw [ih, decode_envelope, decode_envelope, hstep.fields_eq]

/-! ### The record in a file that was saved -/

instance : LawfulCoded Scenario := ⟨named?_name⟩

lemma exact_record (record : Record) : Exact 2 (encode record) := by
  have hlessons : Exact 1 (encode record.completedLessons) :=
    .obj _ (List.forall_mem_map.mpr fun entry _ => .str entry.2.write)
  have hcourses : Exact 1 (encode record.completedCourses) :=
    .arr _ (List.forall_mem_map.mpr fun scenario _ => .str scenario.name)
  refine .obj _ ?_
  simp only [List.forall_mem_cons]
  exact ⟨exact_uint32 _, exact_uint32 _, hlessons, hcourses, exact_uint32 _, by simp⟩

lemma sorted_record (record : Record) : ∃ members others : List (String × Json),
    encode record = .obj members ∧ (encode record).sorted = .obj others ∧ members.Perm others ∧
      (members.map (·.1)).Nodup := by
  have hlessons : (encode record.completedLessons).sorted = encode record.completedLessons := by
    refine sorted_ascending ?_ (List.forall_mem_map.mpr fun entry _ => rfl)
    exact List.pairwise_map.mpr record.completedLessons.ascending
  have hcourses : (encode record.completedCourses).sorted = encode record.completedCourses := by
    refine (sorted_arr _).trans (congrArg Json.arr ?_)
    rw [List.map_map]
    rfl
  have hsorted := sorted_obj [("total_xp", encode record.totalXp), ("level", encode record.level),
    ("completed_lessons", encode record.completedLessons),
    ("completed_courses", encode record.completedCourses), ("stars", encode record.stars)]
  simp only [List.map_cons, List.map_nil, hlessons, hcourses] at hsorted
  exact ⟨_, _, rfl, hsorted, (ofList_perm (by simp)).symm, by simp⟩

lemma decode_sorted_record {record : Record} (htimes : ∀ entry ∈ record.completedLessons.entries,
    Instant.read? entry.2.write = some entry.2) : decode? (encode record).sorted = some record := by
  have hback : decode? (encode record) = some record := by
    have hlessons : decode? (encode record.completedLessons) = some record.completedLessons :=
      decode_table htimes
    refine Eq.trans (decode_record rfl (by decide)) ?_
    simp [hlessons]
  obtain ⟨members, others, hencode, hsorted, hperm, hnodup⟩ := sorted_record record
  have hsame : decode? (α := Record) (.obj members) = decode? (.obj others) := by
    change ((Json.obj members).openFields? 5 _).bind _ = ((Json.obj others).openFields? 5 _).bind _
    rw [openFields?_perm hperm hnodup]
  rw [hsorted, ← hsame, ← hencode, hback]

lemma exact_envelope (digest : String → String) (record : Record) :
    Exact 3 (encode (Envelope.ofRecord digest record)) := by
  refine .obj _ ?_
  simp only [List.forall_mem_cons]
  exact ⟨.str _, (exact_record record).sorted, by simp⟩

lemma decode_saved (digest : String → String) (record : Record) :
    decode? (encode (Envelope.ofRecord digest record)) = some (Envelope.ofRecord digest record) := by
  have hwhole : (encode record).sorted.whole? = some (encode record).sorted :=
    if_pos (exact_record record).sorted.fits.sound
  refine Eq.trans (decode_record rfl (by decide)) ?_
  change ((encode record).sorted.whole?.bind fun record => _) = _
  rw [hwhole, Option.bind_some, sorted_sorted]
  rfl

lemma Reordered.exact {n : Nat} (h : Reordered value other) (hvalue : Exact n value) :
    Exact n other := by
  induction h generalizing n with
  | members hperm hnodup =>
    cases hvalue with
    | obj _ hmembers => exact .obj _ fun member hmem => hmembers member (hperm.mem_iff.mpr hmem)
  | item before after h ih =>
    cases hvalue with
    | arr _ hitems =>
      simp only [List.forall_mem_append, List.forall_mem_cons] at hitems
      refine .arr _ ?_
      simp only [List.forall_mem_append, List.forall_mem_cons]
      exact ⟨hitems.1, ih hitems.2.1, hitems.2.2⟩
  | member before after key h ih =>
    cases hvalue with
    | obj _ hmembers =>
      simp only [List.forall_mem_append, List.forall_mem_cons] at hmembers
      refine .obj _ ?_
      simp only [List.forall_mem_append, List.forall_mem_cons]
      exact ⟨hmembers.1, ih hmembers.2.1, hmembers.2.2⟩

lemma Rearranged.exact {n : Nat} (h : Rearranged value other) (hvalue : Exact n value) :
    Exact n other := by
  induction h with
  | refl => exact hvalue
  | tail _ hstep ih => exact hstep.exact ih

lemma envelope?_saved {record : Record} {cs before after : List Char}
    (hvalue : Rearranged (encode (Envelope.ofRecord digest record)) value) (htext : TextOf value cs)
    (hbefore : Space before) (hafter : Space after) :
    envelope? (String.ofList (before ++ cs ++ after)) = some (Envelope.ofRecord digest record) := by
  have hlevels : value.levels ≤ Json.maxLevels :=
    Nat.le_trans (hvalue.exact (exact_envelope digest record)).fits.levels_le (by decide)
  rw [envelope?, read?_text htext hlevels hbefore hafter, Option.bind_some,
    ← hvalue.decode_envelope_eq, decode_saved]

lemma envelope?_write (digest : String → String) (record : Record) :
    envelope? (File.write digest record) = some (Envelope.ofRecord digest record) := by
  have htext := pretty_text (exact_envelope digest record) 0
  have hread := envelope?_saved .refl htext space_nil space_nil
  rwa [List.nil_append, List.append_nil, String.ofList_toList] at hread

lemma verify_saved {record : Record} (htimes : ∀ entry ∈ record.completedLessons.entries,
    Instant.read? entry.2.write = some entry.2) :
    (Envelope.ofRecord digest record).verify digest = .ok record := by
  have hrecord : (Envelope.ofRecord digest record).record = (encode record).sorted := rfl
  simp only [Envelope.verify, canonical_encode_envelope, hrecord, canonical_sorted, if_true,
    decode_sorted_record htimes]

/-! ### Envelopes in any text -/

lemma verify_eq (digest : String → String) (envelope : Envelope) : envelope.verify digest =
    if envelope.checksum = digest (canonical envelope.record) then
      match decode? envelope.record with
      | some record => .ok record
      | none => .error .unreadable
    else .error (.digestMismatch envelope.checksum (digest (canonical envelope.record))) := by
  by_cases hsum : envelope.checksum = digest (canonical envelope.record)
  · rw [if_pos hsum]
    exact if_pos hsum.symm
  · rw [if_neg hsum]
    exact if_neg (Ne.symm hsum)

lemma envelope_parts (h : envelope? text = some envelope) : ∃ value record,
    Json.read? text = some value ∧
      value.fields? ["checksum", "record"] = some [some (.str envelope.checksum), some record] ∧
      envelope.record = record.sorted := by
  obtain ⟨value, hvalue, hdecode⟩ := Option.bind_eq_some_iff.mp h
  rw [decode_envelope, Option.bind_map] at hdecode
  obtain ⟨fields, hfields, hfound⟩ := Option.bind_eq_some_iff.mp hdecode
  rcases fields with _ | ⟨_ | checksum, _ | ⟨_ | record, _ | ⟨third, more⟩⟩⟩
  case cons.some.cons.some.nil =>
    obtain ⟨found, hchecksum, hrest⟩ := Option.bind_eq_some_iff.mp hfound
    obtain ⟨arranged, hrecord, hmade⟩ := Option.bind_eq_some_iff.mp hrest
    cases hmade
    cases checksum with
    | str s =>
      cases hchecksum
      obtain ⟨whole, hwhole, rfl⟩ := Option.map_eq_some_iff.mp hrecord
      rw [Json.whole?, Option.ite_none_right_eq_some] at hwhole
      obtain ⟨-, heq⟩ := hwhole
      cases heq
      exact ⟨value, record, hvalue, hfields, rfl⟩
    | _ => cases hchecksum
  all_goals cases hfound

lemma digestMismatch_iff (h : envelope? text = some envelope) :
    (∃ expected computed, loaded digest text = .error (.digestMismatch expected computed)) ↔
      envelope.checksum ≠ digest (canonical envelope.record) := by
  rw [loaded_eq, h]
  simp only [verify_eq]
  by_cases hsum : envelope.checksum = digest (canonical envelope.record)
  · rw [if_pos hsum, iff_false_right (not_not.mpr hsum)]
    cases decode? (α := Record) envelope.record <;> rintro ⟨_, _, ⟨⟩⟩
  · rw [if_neg hsum, iff_true_right hsum]
    exact ⟨_, _, rfl⟩

/-- What is saved is loaded, as long as the times are read as they are written. Of a text with an
envelope, the digest of the canonical text of the record decides: if it is the one in the envelope,
the record is decoded, and if not, the file is refused for it. Other texts are never refused for
their digest. The members of objects may stand in any order, and a saved envelope in any of its
texts, with no difference to the outcome. With the checksum of a saved record another one is loaded
only if the canonical texts of both have the same digest. -/
theorem files_checked_by_value (digest : String → String) :
    (∀ (record : Record) (place : Option ByteArray),
      (∀ entry ∈ record.completedLessons.entries, Instant.read? entry.2.write = some entry.2) →
      ((Store.file digest).save record place).1 = .ok () ∧
        (Store.file digest).load ((Store.file digest).save record place).2 = .ok (some record)) ∧
    (∀ text envelope, envelope? text = some envelope →
      (∃ value record, Json.read? text = some value ∧
        value.fields? ["checksum", "record"] = some [some (.str envelope.checksum), some record] ∧
        envelope.record = record.sorted ∧ envelope.record.sorted.compact = record.sorted.compact) ∧
      ((∃ expected computed, loaded digest text = .error (.digestMismatch expected computed)) ↔
        envelope.checksum ≠ digest envelope.record.sorted.compact) ∧
      loaded digest text =
        if envelope.checksum = digest envelope.record.sorted.compact then
          match decode? envelope.record with
          | some record => .ok (some record)
          | none => .error .unreadable
        else .error (.digestMismatch envelope.checksum (digest envelope.record.sorted.compact))) ∧
    (∀ text, envelope? text = none → loaded digest text = .error .unreadable) ∧
    (∀ text changed value other, Json.read? text = some value → Json.read? changed = some other →
      Rearranged value other → loaded digest changed = loaded digest text) ∧
    (∀ record value cs before after, Rearranged (encode (Envelope.ofRecord digest record)) value →
      TextOf value cs → Space before → Space after →
        loaded digest (String.ofList (before ++ cs ++ after)) =
          loaded digest (File.write digest record)) ∧
    (∀ (record other : Record) text envelope, envelope? text = some envelope →
      envelope.checksum = (Envelope.ofRecord digest record).checksum →
      loaded digest text = .ok (some other) →
        digest envelope.record.sorted.compact = digest (encode record).sorted.compact) := by
  have hcanonical (value : Json) : value.sorted.compact = canonical value := rfl
  simp only [hcanonical]
  refine ⟨fun record place htimes => ⟨rfl, ?_⟩, fun text envelope h => ⟨?_, digestMismatch_iff h, ?_⟩,
    fun text h => ?_, fun text changed value other hvalue hother hsame => ?_,
    fun record value cs before after hvalue htext hbefore hafter => ?_,
    fun record other text envelope h hsum hloaded => ?_⟩
  · change loaded digest (File.write digest record) = _
    rw [loaded_eq, envelope?_write]
    exact congrArg (Except.map some) (verify_saved htimes)
  · obtain ⟨value, record, hvalue, hfields, hrecord⟩ := envelope_parts h
    exact ⟨value, record, hvalue, hfields, hrecord, by rw [hrecord, canonical_sorted]⟩
  · rw [loaded_eq, h]
    simp only [verify_eq]
    by_cases hsum : envelope.checksum = digest (canonical envelope.record)
    · rw [if_pos hsum, if_pos hsum]
      cases decode? (α := Record) envelope.record <;> rfl
    · rw [if_neg hsum, if_neg hsum]
      rfl
  · rw [loaded_eq, h]
  · rw [loaded_eq, loaded_eq, envelope?, envelope?, hvalue, hother, Option.bind_some, Option.bind_some,
      hsame.decode_envelope_eq]
  · rw [loaded_eq, loaded_eq, envelope?_write, envelope?_saved hvalue htext hbefore hafter]
  · have hright : envelope.checksum = digest (canonical envelope.record) := by
      by_contra hwrong
      obtain ⟨expected, computed, hrefused⟩ := (digestMismatch_iff h).mpr hwrong
      rw [hloaded] at hrefused
      cases hrefused
    rw [← hright, hsum, canonical_encode_envelope]

/-- Two lessons, one of which was completed between two seconds. -/
def twoLessons : Record where
  totalXp := 25
  level := 1
  completedLessons := .ofList [("programming_basic_output", ⟨1772366400, 0⟩),
    ("programming_variables", ⟨1772366460, 250000000⟩)]
  completedCourses := []
  stars := 0

/-- The digest is the first character. The other file has the one of an object and holds no object. -/
theorem two_lessons_loaded :
    let digest : String → String := fun text => String.ofList (text.toList.take 1)
    (Store.file digest).load ((Store.file digest).save twoLessons none).2 = .ok (some twoLessons) ∧
      (∃ expected computed, loaded digest "[\"\\u007b\", null]" =
        .error (.digestMismatch expected computed)) := by
  intro digest
  obtain ⟨hsaved, htexts, -⟩ := files_checked_by_value digest
  have htimes : ∀ entry ∈ twoLessons.completedLessons.entries,
      Instant.read? entry.2.write = some entry.2 := by decide +kernel
  have henvelope : envelope? "[\"\\u007b\", null]" = some ⟨"\x7b", .null⟩ := by rfl
  refine ⟨(hsaved twoLessons none htimes).2, (htexts _ _ henvelope).2.1.mpr ?_⟩
  decide +kernel

end Microworlds.Proofs

import Microworlds.Replay
import Microworlds.Proofs.Json.Writing

/-!
# Results survive their form in JSON

The members of an outcome stand among those of its line, and a step has its kind among its fields. A value
stands for a result if it has each of these members once and no part of it is flawed; members with
other keys and the order of all members do not matter, and no steps are as good as no member for them.
What is read of such a value is the result, and what is written of a result is such a value.
-/

namespace Microworlds.Proofs

variable {members others : List (String × Json)} {key tag : String} {value : Json}

/-! ### Members of objects -/

/-- The key stands once among the members, with the given value. -/
def Holds (members : List (String × Json)) (key : String) (value : Json) : Prop :=
  members.filter (·.1 == key) = [(key, value)]

/-- The key does not stand among the members. -/
def Lacks (members : List (String × Json)) (key : String) : Prop :=
  members.filter (·.1 == key) = []

lemma Holds.occurrences (h : Holds members key value) : Json.occurrences members key = 1 := by
  rw [Json.occurrences, List.countP_eq_length_filter, h, List.length_singleton]

lemma Holds.member? (h : Holds members key value) : Json.member? members key = some value := by
  rw [Json.member?, ← List.head?_filter, List.filter_reverse, h]
  rfl

lemma Lacks.occurrences (h : Lacks members key) : Json.occurrences members key = 0 := by
  rw [Json.occurrences, List.countP_eq_length_filter, h, List.length_nil]

lemma Holds.without (h : Holds members key value) (hne : key ≠ tag) :
    Holds (members.filter (·.1 != tag)) key value := by
  unfold Holds at h ⊢
  rw [List.filter_comm, h]
  exact List.filter_cons_of_pos (bne_iff_ne.mpr hne)

lemma tagged?_of_holds (h : Holds members tag value) :
    (Json.obj members).tagged? tag = some (value, .obj (members.filter (·.1 != tag))) := by
  rw [Json.tagged?, if_pos h.occurrences, h.member?]
  rfl

lemma openFields?_of_once {names : List String}
    (h : ∀ name ∈ names, Json.occurrences members name ≤ 1) (least : Nat) :
    (Json.obj members).openFields? least names = some (names.map (Json.member? members)) := by
  have honce : (names.any fun name => 1 < Json.occurrences members name) = false := by
    rw [List.any_eq_false]
    exact fun name hname => by simpa using h name hname
  rw [Json.openFields?, honce, if_neg Bool.false_ne_true]

lemma fields?_of_holds (fields : List (String × Json))
    (h : ∀ field ∈ fields, Holds members field.1 field.2) :
    (Json.obj members).fields? (fields.map (·.1)) = some (fields.map (some ·.2)) := by
  have honce : ∀ name ∈ fields.map (·.1), Json.occurrences members name ≤ 1 :=
    List.forall_mem_map.mpr fun field hfield => (h field hfield).occurrences.le
  rw [Json.fields?, openFields?_of_once honce, List.map_map]
  exact congrArg some (List.map_congr_left fun field hfield => (h field hfield).member?)

/-! ### Steps -/

/-- The value is an object with the kind and the fields of the step. -/
inductive StepForm (step : Step) : Json → Prop
  | obj (members : List (String × Json)) (hkind : Holds members "kind" (.str step.kind))
    (hfields : ∀ field ∈ step.fields, Holds members field.1 field.2) : StepForm step (.obj members)

instance : LawfulCoded Char where
  decode_encode c := by
    change (match (String.singleton c).toList with
      | [c] => some c
      | _ => none) = some c
    rw [String.toList_singleton]

lemma choice?_kind (step : Step) : Json.choice? Step.kinds (.str step.kind) = some step.kind := by
  cases step <;> rfl

lemma kind_ne_field (step : Step) : ∀ field ∈ step.fields, field.1 ≠ "kind" := by
  cases step <;> simp [Step.fields]

lemma ofFields?_of_holds {step : Step} (h : ∀ field ∈ step.fields, Holds members field.1 field.2) :
    Step.ofFields? step.kind (.obj members) = some step := by
  have hfields := fields?_of_holds step.fields h
  cases step <;> exact (congrArg (Option.bind · _) hfields).trans (by simp [Step.fields])

lemma StepForm.decode {step : Step} (h : StepForm step value) : decode? value = some step := by
  obtain ⟨members, hkind, hfields⟩ := h
  change ((Json.obj members).tagged? "kind").bind _ = _
  rw [tagged?_of_holds hkind, Option.bind_some]
  change (Json.choice? Step.kinds (.str step.kind)).bind _ = _
  rw [choice?_kind, Option.bind_some]
  exact ofFields?_of_holds fun field hfield =>
    (hfields field hfield).without (kind_ne_field step field hfield)

/-! ### Effects -/

/-- The value is an object with the description and the steps of the effect. If there are none, it may
have no member for them. -/
inductive EffectForm (effect : Effect) : Json → Prop
  | shown (members : List (String × Json)) (items : List Json)
    (hdescription : Holds members "description" (encode effect.description))
    (hsteps : Holds members "steps" (.arr items)) (hitems : List.Forall₂ StepForm effect.steps items) :
    EffectForm effect (.obj members)
  | plain (members : List (String × Json))
    (hdescription : Holds members "description" (encode effect.description))
    (hsteps : Lacks members "steps") (hnone : effect.steps = []) : EffectForm effect (.obj members)

lemma decode_list {α : Type} [Coded α] {Form : α → Json → Prop}
    (hform : ∀ a value, Form a value → decode? value = some a) {list : List α} {items : List Json}
    (h : List.Forall₂ Form list items) : decode? (.arr items) = some list := by
  change items.mapM decode? = some list
  induction h with
  | nil => rfl
  | cons hfirst hmore ih => simp [hform _ _ hfirst, ih]

lemma decode_effect (hdescription : Json.occurrences members "description" ≤ 1)
    (hsteps : Json.occurrences members "steps" ≤ 1) :
    decode? (α := Effect) (.obj members) = do
      let shown ← match Json.member? members "steps" with
        | some steps => decode? steps
        | none => some []
      return ⟨← field? (Json.member? members "description"), shown⟩ := by
  have honce : ∀ name ∈ ["description", "steps"], Json.occurrences members name ≤ 1 := by
    simp [hdescription, hsteps]
  change ((Json.obj members).openFields? 1 ["description", "steps"]).bind _ = _
  rw [openFields?_of_once honce]
  rfl

lemma decode_missing_steps {description : String}
    (hdescription : Holds members "description" (encode description)) (hsteps : Lacks members "steps") :
    decode? (.obj members) = some (⟨description, []⟩ : Effect) := by
  rw [decode_effect hdescription.occurrences.le (hsteps.occurrences.trans_le (Nat.zero_le 1)),
    hdescription.member?, member?_eq_none hsteps.occurrences]
  rfl

lemma EffectForm.decode {effect : Effect} (h : EffectForm effect value) :
    decode? value = some effect := by
  cases h with
  | shown members items hdescription hsteps hitems =>
    have hread : decode? (.arr items) = some effect.steps := decode_list (fun _ _ => StepForm.decode) hitems
    rw [decode_effect hdescription.occurrences.le hsteps.occurrences.le, hdescription.member?,
      hsteps.member?]
    dsimp only
    rw [hread]
    rfl
  | plain members hdescription hsteps hnone =>
    rw [decode_missing_steps hdescription hsteps, ← hnone]

/-! ### Lines -/

/-- Among the members are those of the outcome. -/
inductive OutcomeForm (members : List (String × Json)) : Outcome → Prop
  | success (effect : Effect) (value : Json) (hstatus : Holds members "status" (.str "success"))
    (hmember : Holds members "effect" value) (heffect : EffectForm effect value) :
    OutcomeForm members (.success effect)
  | failure (kind : FailureKind) (reason : String)
    (hstatus : Holds members "status" (.str "failure"))
    (hkind : Holds members "kind" (encode kind)) (hreason : Holds members "reason" (encode reason)) :
    OutcomeForm members (.failure kind reason)

/-- The value is an object with the members of the result, and no part of it is flawed. -/
inductive LineForm (result : LineResult) : Json → Prop
  | obj (members : List (String × Json))
    (hnumber : Holds members "line_number" (encode result.lineNumber))
    (hsource : Holds members "source_line" (encode result.sourceLine))
    (houtcome : OutcomeForm members result.outcome) (hsound : (Json.obj members).sound = true) :
    LineForm result (.obj members)

/-- The value is an array of objects for the results. -/
inductive ResultsForm (results : List LineResult) : Json → Prop
  | arr (items : List Json) (h : List.Forall₂ LineForm results items) : ResultsForm results (.arr items)

instance : LawfulCoded FailureKind where
  decode_encode kind := by cases kind <;> rfl

lemma OutcomeForm.decode {outcome : Outcome} (h : OutcomeForm members outcome)
    (hsound : (Json.obj members).sound = true) : Outcome.ofJson? (.obj members) = some outcome := by
  have hwhole : (Json.obj members).whole? = some (.obj members) := if_pos hsound
  unfold Outcome.ofJson?
  cases h with
  | success effect value hstatus hmember heffect =>
    have hfields : (Json.obj (members.filter (·.1 != "status"))).fields? ["effect"] =
        some [some value] :=
      fields?_of_holds [("effect", value)] (by simpa using hmember.without (by decide))
    have hread := heffect.decode
    rw [hwhole]
    change ((Json.obj members).tagged? "status").bind _ = _
    rw [tagged?_of_holds hstatus]
    refine (congrArg (Option.bind · _) hfields).trans ?_
    simp [hread]
  | failure kind reason hstatus hkind hreason =>
    have hfields : (Json.obj (members.filter (·.1 != "status"))).fields? ["kind", "reason"] =
        some [some (encode kind), some (encode reason)] :=
      fields?_of_holds [("kind", encode kind), ("reason", encode reason)]
        (by simpa using ⟨hkind.without (by decide), hreason.without (by decide)⟩)
    rw [hwhole]
    change ((Json.obj members).tagged? "status").bind _ = _
    rw [tagged?_of_holds hstatus]
    refine (congrArg (Option.bind · _) hfields).trans ?_
    simp

lemma LineForm.decode {result : LineResult} (h : LineForm result value) :
    decode? value = some result := by
  obtain ⟨members, hnumber, hsource, houtcome, hsound⟩ := h
  have hfields : (Json.obj members).fields? ["line_number", "source_line"] =
      some [some (encode result.lineNumber), some (encode result.sourceLine)] :=
    fields?_of_holds [("line_number", encode result.lineNumber),
      ("source_line", encode result.sourceLine)] (by simpa using ⟨hnumber, hsource⟩)
  refine (congrArg (Option.bind · _) hfields).trans ?_
  simp [houtcome.decode hsound]

lemma ResultsForm.decode {results : List LineResult} (h : ResultsForm results value) :
    decode? value = some results := by
  obtain ⟨items, hitems⟩ := h
  exact decode_list (fun _ _ => LineForm.decode) hitems

/-! ### Canonical arrangements -/

lemma Holds.sorted (h : Holds members key value) :
    Holds (Table.ofList (members.map fun member => (member.1, member.2.sorted))).entries key
      value.sorted := by
  refine filter_foldl_of_holds .empty ?_
  rw [List.filter_map, Function.comp_def, h]
  rfl

lemma Lacks.sorted (h : Lacks members key) :
    Lacks (Table.ofList (members.map fun member => (member.1, member.2.sorted))).entries key := by
  refine filter_foldl_of_lacks .empty ?_
  rw [List.filter_map, Function.comp_def, h]
  rfl

lemma sorted_field (step : Step) : ∀ field ∈ step.fields, field.2.sorted = field.2 := by
  cases step <;> simp [Step.fields, encode, Json.sorted]

lemma StepForm.sorted {step : Step} (h : StepForm step value) : StepForm step value.sorted := by
  obtain ⟨members, hkind, hfields⟩ := h
  rw [sorted_obj]
  refine .obj _ hkind.sorted fun field hfield => ?_
  have hsorted := (hfields field hfield).sorted
  rwa [sorted_field step field hfield] at hsorted

lemma EffectForm.sorted {effect : Effect} (h : EffectForm effect value) :
    EffectForm effect value.sorted := by
  cases h with
  | shown members items hdescription hsteps hitems =>
    have hsorted := hsteps.sorted
    rw [sorted_arr] at hsorted
    rw [sorted_obj]
    exact .shown _ _ hdescription.sorted hsorted
      (List.forall₂_map_right_iff.mpr (hitems.imp fun _ _ => StepForm.sorted))
  | plain members hdescription hsteps hnone =>
    rw [sorted_obj]
    exact .plain _ hdescription.sorted hsteps.sorted hnone

lemma OutcomeForm.sorted {outcome : Outcome} (h : OutcomeForm members outcome) :
    OutcomeForm (Table.ofList (members.map fun member => (member.1, member.2.sorted))).entries
      outcome := by
  cases h with
  | success effect value hstatus hmember heffect =>
    exact .success effect _ hstatus.sorted hmember.sorted heffect.sorted
  | failure kind reason hstatus hkind hreason =>
    exact .failure kind reason hstatus.sorted hkind.sorted hreason.sorted

lemma LineForm.sorted {result : LineResult} (h : LineForm result value) :
    LineForm result value.sorted := by
  obtain ⟨members, hnumber, hsource, houtcome, hsound⟩ := h
  have hsorted := sound_sorted _ hsound
  rw [sorted_obj] at hsorted ⊢
  exact .obj _ hnumber.sorted hsource.sorted houtcome.sorted hsorted

lemma ResultsForm.sorted {results : List LineResult} (h : ResultsForm results value) :
    ResultsForm results value.sorted := by
  obtain ⟨items, hitems⟩ := h
  rw [sorted_arr]
  exact .arr _ (List.forall₂_map_right_iff.mpr (hitems.imp fun _ _ => LineForm.sorted))

/-! ### What is written -/

lemma forall₂_encode {β : Type} [Coded β] {Form : β → Json → Prop} (h : ∀ b, Form b (encode b))
    (list : List β) : List.Forall₂ Form list (list.map encode) :=
  List.forall₂_map_right_iff.mpr (List.forall₂_same.mpr fun b _ => h b)

lemma stepForm_encode (step : Step) : StepForm step (encode step) := by
  have hnodup : ((("kind", .str step.kind) :: step.fields : List (String × Json)).map (·.1)).Nodup := by
    cases step <;> simp [Step.fields]
  exact .obj _ (filter_of_nodup hnodup List.mem_cons_self) fun field hfield =>
    filter_of_nodup hnodup (List.mem_cons_of_mem _ hfield)

lemma effectForm_encode (effect : Effect) : EffectForm effect (encode effect) := by
  obtain ⟨description, steps⟩ := effect
  cases steps with
  | nil => exact .plain _ rfl rfl rfl
  | cons first more => exact .shown _ _ rfl rfl (forall₂_encode stepForm_encode (first :: more))

variable {ok : Float → Prop} {n : Nat}

@[simp] lemma fits_char (c : Char) : Fits ok n (encode c) := .str (String.singleton c)

@[simp] lemma fits_failureKind (kind : FailureKind) : Fits ok n (encode kind) := .str kind.name

@[simp] lemma fits_step (step : Step) : Fits ok (n + 1) (encode step) := by
  change Fits ok (n + 1) (.obj _)
  cases step <;> simp [Step.fields]

@[simp] lemma fits_effect (effect : Effect) : Fits ok (n + 3) (encode effect) := by
  change Fits ok (n + 3) (.obj _)
  cases effect.steps <;> simp

@[simp] lemma fits_result (result : LineResult) : Fits ok (n + 4) (encode result) := by
  change Fits ok (n + 4) (.obj _)
  cases result.outcome <;> simp [Outcome.members]

lemma lineForm_encode (result : LineResult) : LineForm result (encode result) := by
  have hfits : Fits (fun _ => False) 4 (encode result) := fits_result result
  have hsound := hfits.sound
  obtain ⟨number, source, outcome⟩ := result
  cases outcome with
  | success effect =>
    exact .obj _ rfl rfl (.success effect _ rfl rfl (effectForm_encode effect)) hsound
  | failure kind reason => exact .obj _ rfl rfl (.failure kind reason rfl rfl rfl) hsound

lemma resultsForm_encode (results : List LineResult) : ResultsForm results (encode results) :=
  .arr _ (forall₂_encode lineForm_encode results)

/-! ### Texts -/

/-- The positions that a step names. -/
def positions : Step → List Nat
  | .compare left right | .swap left right => [left, right]
  | .settle index | .inspect index | .found index => [index]
  | .heapSwap child parent => [child, parent]
  | _ => []

/-- The number of the line and the positions in its steps are words of 64 bits. -/
structure InWords (result : LineResult) : Prop where
  lineNumber : result.lineNumber ≤ Word.greatest64
  steps : ∀ step ∈ result.steps, ∀ position ∈ positions step, position ≤ Word.greatest64

lemma exact_step {step : Step} (h : ∀ position ∈ positions step, position ≤ Word.greatest64) :
    Exact (n + 1) (encode step) := by
  refine .obj _ (List.forall_mem_cons.mpr ⟨.str _, ?_⟩)
  have hchar : ∀ c : Char, Exact n (encode c) := fun c => .str (String.singleton c)
  cases step <;>
    simp_all [positions, Step.fields, exact_nat, exact_uint64, exact_int64, exact_uint32]

lemma exact_effect {effect : Effect}
    (h : ∀ step ∈ effect.steps, ∀ position ∈ positions step, position ≤ Word.greatest64) :
    Exact (n + 3) (encode effect) := by
  have hsteps : Exact (n + 2) (encode effect.steps) :=
    .arr _ (List.forall_mem_map.mpr fun step hstep => exact_step (h step hstep))
  refine .obj _ (List.forall_mem_cons.mpr ⟨.str _, ?_⟩)
  split
  · exact fun _ hmem => absurd hmem List.not_mem_nil
  · exact List.forall_mem_singleton.mpr hsteps

lemma exact_result {result : LineResult} (h : InWords result) : Exact (n + 4) (encode result) := by
  obtain ⟨number, source, outcome⟩ := result
  refine .obj _ (List.forall_mem_cons.mpr ⟨exact_nat h.lineNumber, ?_⟩)
  refine List.forall_mem_cons.mpr ⟨.str _, ?_⟩
  cases outcome with
  | success effect =>
    exact List.forall_mem_cons.mpr ⟨.str _, List.forall_mem_singleton.mpr (exact_effect h.steps)⟩
  | failure kind reason =>
    exact List.forall_mem_cons.mpr ⟨.str _, List.forall_mem_cons.mpr ⟨.str _,
      List.forall_mem_singleton.mpr (.str _)⟩⟩

lemma exact_results {results : List LineResult} (h : ∀ result ∈ results, InWords result) :
    Exact 5 (encode results) :=
  .arr _ (List.forall_mem_map.mpr fun result hresult => exact_result (n := 0) (h result hresult))

/-- The results in a text, if it has the form of any. -/
def resultsOfText? (text : String) : Option (List LineResult) :=
  (Json.read? text).bind decode?

lemma resultsOfText?_text {results : List LineResult} (hform : ResultsForm results value)
    (hlevels : value.levels ≤ Json.maxLevels) {cs before after : List Char} (htext : TextOf value cs)
    (hbefore : Space before) (hafter : Space after) :
    resultsOfText? (String.ofList (before ++ cs ++ after)) = some results := by
  rw [resultsOfText?, read?_text htext hlevels hbefore hafter]
  exact hform.decode

lemma resultsOfText?_written {results : List LineResult} (h : ∀ result ∈ results, InWords result)
    {text : String} (htext : TextOf (encode results) text.toList) :
    resultsOfText? text = some results := by
  have hlevels : (encode results).levels ≤ Json.maxLevels :=
    (exact_results h).fits.levels_le.trans (by decide)
  have hread := resultsOfText?_text (resultsForm_encode results) hlevels htext space_nil space_nil
  rwa [List.nil_append, List.append_nil, String.ofList_toList] at hread

/-- Round trip. Results are read from their JSON value as they are, and so they are from every value
that has their members in any order among others with unknown keys, and from the text of what is
written of them. No member for the steps of an effect is as good as an empty one. The lines on the
console and the replay of what is read are those of the results. -/
theorem results_survive_json (results : List LineResult) :
    decode? (encode results) = some results ∧ ResultsForm results (encode results) ∧
      ResultsForm results (encode results).sorted ∧
      (∀ value, ResultsForm results value → decode? value = some results ∧
        ∀ decoded : List LineResult, decode? value = some decoded →
          LineResult.renderAll decoded = LineResult.renderAll results ∧
            ∀ timing, frames timing decoded = frames timing results) ∧
      (∀ members description, Holds members "description" (.str description) →
        Lacks members "steps" → decode? (.obj members) = some (⟨description, []⟩ : Effect)) ∧
      ((∀ result ∈ results, InWords result) →
        resultsOfText? (encode results).compact = some results ∧
          ∀ depth, resultsOfText? ((encode results).pretty depth) = some results) := by
  have hform := resultsForm_encode results
  refine ⟨hform.decode, hform, hform.sorted, fun value hvalue => ?_, ?_, fun hwords => ?_⟩
  · refine ⟨hvalue.decode, fun decoded hdecoded => ?_⟩
    obtain rfl : decoded = results := Option.some.inj (hdecoded.symm.trans hvalue.decode)
    exact ⟨rfl, fun timing => rfl⟩
  · exact fun members description => decode_missing_steps
  · have hexact := exact_results hwords
    exact ⟨resultsOfText?_written hwords (compact_text hexact), fun depth =>
      resultsOfText?_written hwords (pretty_text hexact depth)⟩

/-- A line that added up a text and moved a value in a heap, one that failed, and one without steps. -/
def sumAndFailure : List LineResult :=
  [⟨1, "hash é", .success ⟨"hashed", [.accumulate 'é' 233 18446744073709551615, .heapSwap 1 0]⟩⟩,
    ⟨2, "stack.pop()", .failure .precondition "stack empty"⟩, ⟨4, "a=1", .success ⟨"a = 1", []⟩⟩]

/-- The lines with their members in another order, among them some with unknown keys. -/
def sumAndFailureShuffled : Json :=
  .arr [
    .obj [("note", .null), ("effect", .obj [
      ("steps", .arr [
        .obj [("running_sum", .int 18446744073709551615), ("kind", .str "accumulate"),
          ("code", .int 233), ("tint", .str "red"), ("character", .str "é")],
        .obj [("parent", .int 0), ("child", .int 1), ("index", .int 3), ("kind", .str "heap_swap")]]),
      ("seen", .bool true), ("description", .str "hashed")]),
      ("kind", .str "evaluation"), ("status", .str "success"), ("source_line", .str "hash é"),
      ("line_number", .int 1)],
    .obj [("reason", .str "stack empty"), ("line_number", .int 2), ("effect", .arr []),
      ("kind", .str "precondition"), ("status", .str "failure"), ("source_line", .str "stack.pop()")],
    .obj [("line_number", .int 4), ("source_line", .str "a=1"), ("status", .str "success"),
      ("effect", .obj [("description", .str "a = 1")])]]

lemma sumAndFailureShuffled_form : ResultsForm sumAndFailure sumAndFailureShuffled := by
  have haccumulate : StepForm (.accumulate 'é' 233 18446744073709551615) (.obj [
      ("running_sum", .int 18446744073709551615), ("kind", .str "accumulate"),
      ("code", .int 233), ("tint", .str "red"), ("character", .str "é")]) := by
    refine .obj _ rfl ?_
    simp only [Step.fields, List.forall_mem_cons]
    exact ⟨rfl, rfl, rfl, by simp⟩
  have hswap : StepForm (.heapSwap 1 0) (.obj [("parent", .int 0), ("child", .int 1),
      ("index", .int 3), ("kind", .str "heap_swap")]) := by
    refine .obj _ rfl ?_
    simp only [Step.fields, List.forall_mem_cons]
    exact ⟨rfl, rfl, by simp⟩
  exact .arr _ (.cons
    (.obj _ rfl rfl (.success _ _ rfl rfl
      (.shown _ _ rfl rfl (.cons haccumulate (.cons hswap .nil)))) rfl)
    (.cons (.obj _ rfl rfl (.failure _ _ rfl rfl rfl) rfl)
      (.cons (.obj _ rfl rfl (.success _ _ rfl rfl (.plain _ rfl rfl rfl)) rfl) .nil)))

theorem sumAndFailure_survives :
    ResultsForm sumAndFailure sumAndFailureShuffled ∧
      decode? sumAndFailureShuffled = some sumAndFailure ∧
      (∀ result ∈ sumAndFailure, InWords result) ∧
      resultsOfText? (encode sumAndFailure).compact = some sumAndFailure := by
  obtain ⟨-, -, -, hvalue, -, htext⟩ := results_survive_json sumAndFailure
  have hwords : ∀ result ∈ sumAndFailure, InWords result := by
    simp only [sumAndFailure, List.forall_mem_cons]
    exact ⟨⟨by decide, by decide⟩, ⟨by decide, by decide⟩, ⟨by decide, by decide⟩, by simp⟩
  exact ⟨sumAndFailureShuffled_form, (hvalue _ sumAndFailureShuffled_form).1, hwords,
    (htext hwords).1⟩

end Microworlds.Proofs

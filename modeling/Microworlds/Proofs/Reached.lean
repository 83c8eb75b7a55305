import Microworlds.Session
import Microworlds.Proofs.Invariant
import Microworlds.Proofs.Atomicity
import Microworlds.Proofs.Decimal.Magnitude
import Microworlds.Proofs.Codec.Shape
import Microworlds.Proofs.Statement.Forms

/-!
# What sessions keep

The numbers of a statement are finite, because no other number can be written. So all numbers of a
drawing are finite at any time, and the marks of a chat have a sum. For that reason no run breaks down.
Only the speed of a body can become infinite: a force on it is divided by its mass.
-/

namespace Microworlds.Proofs

variable {κ : Type}

/-! ### Numbers of statements -/

/-- The value of a slot for a number is finite. -/
def FiniteValue : (s : Slot) → s.Value → Prop
  | .number, x => IsFinite x
  | _, _ => True

/-- The values in all slots for numbers are finite. -/
def FiniteValues : (pieces : List Piece) → Pieces.Values pieces → Prop
  | [], _ => True
  | .slot s :: more, (value, values) => FiniteValue s value ∧ FiniteValues more values
  | .text _ :: more, values => FiniteValues more values
  | .gap :: more, values => FiniteValues more values
  | .space :: more, values => FiniteValues more values

lemma decimal_finite {text : String} {x : Float} (h : Literal.decimal text = .ok x) : IsFinite x := by
  unfold Literal.decimal at h
  simp only at h
  split at h
  · split at h
    · next hfinite => cases h; exact hfinite
    · cases h
  · cases h

lemma read_finite (s : Slot) {text : String} {value : s.Value} (h : s.read text = .ok value) :
    FiniteValue s value := by
  cases s with
  | number =>
    change Literal.decimal text = .ok value at h
    exact decimal_finite h
  | _ => trivial

lemma match?_finite (pieces : List Piece) {cs : List Char} {values : Pieces.Values pieces}
    (h : Pieces.match? pieces cs = some (.ok values)) : FiniteValues pieces values := by
  induction pieces generalizing cs with
  | nil => trivial
  | cons piece more ih =>
    cases piece with
    | text text =>
      obtain ⟨rest, -, hrest⟩ := Option.bind_eq_some_iff.mp h
      exact ih hrest
    | gap => exact ih h
    | space =>
      cases cs with
      | nil => cases h
      | cons c rest =>
        rw [Pieces.match?] at h
        split at h
        · exact ih h
        · cases h
    | slot s =>
      rw [Pieces.match?] at h
      split at h
      · cases h
      · next text rest htake =>
        obtain ⟨found, hfound, h⟩ := Option.map_eq_some_iff.mp h
        split at h
        · next value values' hvalue => cases h; exact ⟨read_finite s hvalue, ih hfound⟩
        · cases h
        · cases h

lemma form_finite {form : Form κ} {line : List Char} {command : κ}
    (h : form.match? line = some (.ok command)) :
    ∃ values, FiniteValues form.pieces values ∧ command = form.meaning values := by
  obtain ⟨found, hfound, h⟩ := Option.map_eq_some_iff.mp h
  cases found with
  | error e => cases h
  | ok values => cases h; exact ⟨values, match?_finite form.pieces hfound, rfl⟩

/-- Whether the numbers of a command about a drawing are finite. -/
def FiniteCommand : Math.Command → Prop
  | .circle x y radius => ShapeNumbers IsFinite (.circle x y radius)
  | .rectangle x y width height => ShapeNumbers IsFinite (.rectangle x y width height)
  | .point x y _ => IsFinite x ∧ IsFinite y
  | _ => True

lemma math_forms_finite {rule : Rule Math.Command} (hrule : rule ∈ Math.rules)
    {form : Form Math.Command} (hform : form ∈ rule.forms) {values : Pieces.Values form.pieces}
    (h : FiniteValues form.pieces values) : FiniteCommand (form.meaning values) := by
  simp only [Math.rules, List.mem_cons, List.not_mem_nil, or_false] at hrule
  obtain rfl | rfl | rfl | rfl | rfl | rfl | rfl := hrule
  all_goals simp only [List.mem_cons, List.not_mem_nil, or_false] at hform
  · subst hform
    trivial
  · subst hform
    trivial
  · subst hform
    trivial
  · subst hform
    obtain ⟨x, y, radius, -⟩ := h
    exact ⟨x, y, radius⟩
  · subst hform
    obtain ⟨x, y, width, height, -⟩ := h
    exact ⟨x, y, width, height⟩
  · obtain rfl | rfl := hform
    · obtain ⟨x, y, -⟩ := h
      exact ⟨x, y⟩
    · obtain ⟨x, y, -⟩ := h
      exact ⟨x, y⟩
  · subst hform
    trivial

/-! ### Numbers of drawings -/

lemma samplePlace_finite (range : Math.Range) {k : Nat} (h : k ≤ 10000) :
    IsFinite (Math.samplePlace range k) := by
  have hplace : Small 67 (Decimal.ofInt64 range.min) := small_ofInt64 range.min
  have hcount : Small 17 (Float.ofNat k) := small_ofNat (k := 14) (by omega) (by omega)
  have hstep : Small 0 Math.sampleStep := small_of_exponent (by decide +kernel) (by omega)
  have hoffset : Small 18 (Float.ofNat k * Math.sampleStep) := hcount.mul (by omega) hstep
  exact (hplace.add (by omega) (hoffset.mono (by omega))).isFinite

lemma span_le {range : Math.Range} {width : Nat} (h : Math.span range = .ok width) :
    width ≤ 1000 := by
  unfold Math.span at h
  simp only at h
  split at h
  · cases h
  · split at h
    · next hwidth =>
      cases h
      simp only [Math.maxSpan] at hwidth
      omega
    · cases h

lemma eval_finite {formula : Formula} {x : Option Float} {y : Float}
    (h : formula.eval x = .ok y) : IsFinite y := by
  unfold Formula.eval at h
  cases hv : Formula.value x formula with
  | error e => rw [hv] at h; cases h
  | ok v =>
    rw [hv] at h
    change (if v.isFinite then Except.ok v else throw Formula.Error.notFinite) = _ at h
    split at h
    · next hfinite => cases h; exact hfinite
    · cases h

lemma sample_finite {formula : Formula} {range : Math.Range} {width : Nat} (hwidth : width ≤ 1000)
    {point : Float × Float} (h : point ∈ Math.sample formula range width) :
    IsFinite point.1 ∧ IsFinite point.2 := by
  simp only [Math.sample, List.mem_filterMap, List.mem_range, Math.samplesPerUnit] at h
  obtain ⟨k, hk, hpoint⟩ := h
  split at hpoint
  · next y hy =>
    cases hpoint
    exact ⟨samplePlace_finite range (by omega), eval_finite hy⟩
  · cases hpoint

lemma draw_keeps {shape : Math.Shape} (h : ShapeNumbers IsFinite shape) :
    Keeps (MathNumbers IsFinite) (fun _ : Refusal => True) (Math.draw shape) := by
  refine keeps_modify fun state hstate => { hstate with shapes := ?_ }
  exact List.forall_mem_append.mpr ⟨hstate.shapes, List.forall_mem_singleton.mpr h⟩

lemma math_keeps {command : Math.Command} (h : FiniteCommand command) :
    Keeps (MathNumbers IsFinite) (fun _ => True) (Math.perform command) := by
  cases command with
  | setRange min max =>
    refine Keeps.adaptExcept ?_ _ fun _ => trivial
    refine keeps_liftM (fun width _ => keeps_change (fun state hstate => ?_) _) fun _ _ => trivial
    exact { hstate with }
  | plot expression =>
    refine keeps_check (fun formula _ => ?_) fun _ => trivial
    refine keeps_get fun state _ => keeps_check (fun width hwidth => ?_) fun _ => trivial
    refine (keeps_stopIf trivial).bind fun _ => keeps_change (fun state hstate => ?_) _
    refine { hstate with plots := List.forall_mem_append.mpr ⟨hstate.plots, ?_⟩ }
    exact List.forall_mem_singleton.mpr fun point => sample_finite (span_le hwidth)
  | circle x y radius =>
    refine Keeps.adaptExcept ?_ _ fun _ => trivial
    refine keeps_liftM (fun _ _ => ?_) fun _ _ => trivial
    have hdraw : Keeps (MathNumbers IsFinite) (fun _ : Refusal => True)
        (Math.draw (.circle x y radius)) := draw_keeps h
    exact hdraw.bind fun _ => keeps_pure _
  | rectangle x y width height =>
    refine Keeps.adaptExcept ?_ _ fun _ => trivial
    refine keeps_liftM (fun _ _ => keeps_liftM (fun _ _ => ?_) fun _ _ => trivial) fun _ _ => trivial
    have hdraw : Keeps (MathNumbers IsFinite) (fun _ : Refusal => True)
        (Math.draw (.rectangle x y width height)) := draw_keeps h
    exact hdraw.bind fun _ => keeps_pure _
  | point x y label =>
    refine keeps_change (fun state hstate => ?_) _
    refine { hstate with points := List.forall_mem_append.mpr ⟨hstate.points, ?_⟩ }
    exact List.forall_mem_singleton.mpr h
  | calculate expression =>
    refine Keeps.adaptExcept ?_ _ fun _ => trivial
    refine keeps_liftM (fun formula _ => ?_) fun _ _ => trivial
    refine keeps_liftM (fun result hresult => ?_) fun _ _ => trivial
    refine keeps_change (fun state hstate => ?_) _
    refine { hstate with lastResult := ?_ }
    intro x hx
    cases hx
    exact eval_finite hresult

/-! ### Marks of chats -/

/-- The marks of the last prompt have a sum. -/
def MarksFit (state : AiChat.State) : Prop :=
  ∀ quality, state.quality = some quality → ∃ total, AiChat.total quality = .ok total

lemma mark_le (mark : UInt32) : (min 100 mark).toNat ≤ 100 := by
  change (if 100 ≤ mark then 100 else mark).toNat ≤ 100
  split
  · exact Nat.le_refl 100
  · next h => exact Nat.le_of_not_le h

lemma assess_fits (prompt : String) : ∃ total, AiChat.total (AiChat.assess prompt) = .ok total := by
  have hclarity : (AiChat.assess prompt).clarity.toNat ≤ 100 := mark_le _
  have hspecificity : (AiChat.assess prompt).specificity.toNat ≤ 100 := mark_le _
  have hcontext : (AiChat.assess prompt).context.toNat ≤ 100 := mark_le _
  have hsum : (AiChat.assess prompt).clarity.toNat + (AiChat.assess prompt).specificity.toNat +
      (AiChat.assess prompt).context.toNat ≤ Word.greatest32 := by
    simp only [Word.greatest32]
    omega
  simp only [AiChat.total, AiChat.Quality.total?, Word.uint32?, if_pos hsum]
  exact ⟨_, rfl⟩

lemma aiChat_keeps (command : AiChat.Command) :
    Keeps MarksFit (· ≠ .overflow) (AiChat.perform command) := by
  cases command with
  | setMode word =>
    refine keeps_required (fun mode _ => keeps_change (fun state hstate => ?_) _) nofun
    exact hstate
  | ask prompt =>
    obtain ⟨total, htotal⟩ := assess_fits prompt
    refine (keeps_stopIf nofun).bind fun _ => keeps_liftM (fun _ _ => ?_) fun e he => ?_
    · refine keeps_get fun state _ => keeps_get fun state _ => keeps_change (fun state hstate => ?_) _
      intro quality hquality
      cases hquality
      exact ⟨total, htotal⟩
    · rw [htotal] at he
      cases he
  | refine =>
    refine keeps_get fun state _ => (keeps_stopIf nofun).bind fun _ => ?_
    refine (keeps_modify fun state hstate => ?_).bind fun _ => keeps_get fun state _ => keeps_pure _
    exact hstate
  | analyze =>
    refine keeps_get fun state hstate => keeps_required (fun quality hquality => ?_) nofun
    have hmarks : state.quality = some quality := by
      unfold AiChat.answeredQuality? at hquality
      split at hquality
      · next hmarks _ => rwa [hquality] at hmarks
      · cases hquality
    obtain ⟨total, htotal⟩ := hstate quality hmarks
    refine keeps_liftM (fun _ _ => keeps_pure _) fun e he => ?_
    rw [htotal] at he
    cases he

/-! ### Runs of sessions -/

/-- Whether the numbers of a command are finite as far as they come from a statement. -/
def Given : Command → Prop
  | .math command => FiniteCommand command
  | _ => True

/-- What holds of the state of a session at any time. -/
def Held : State → Prop
  | .math state => MathNumbers IsFinite state
  | .aiChat state => MarksFit state
  | _ => True

lemma initial_held (config : Config) (scenario : Scenario) : Held (.initial config scenario) := by
  cases scenario with
  | math => exact ⟨nofun, nofun, nofun, nofun⟩
  | aiChat => exact nofun
  | _ => trivial

lemma first?_mem {rules : List (Rule κ)} {line : List Char} {rule : Rule κ} {command : κ}
    (h : Rule.first? rules line = some (rule, .ok command)) :
    rule ∈ rules ∧ ∃ form ∈ rule.forms, form.match? line = some (.ok command) := by
  obtain ⟨found, hfound, h⟩ := List.exists_of_findSome?_eq_some h
  obtain ⟨said, hsaid, h⟩ := Option.map_eq_some_iff.mp h
  cases h
  exact ⟨hfound, List.exists_of_findSome?_eq_some hsaid⟩

lemma first?_of_map {μ : Type} {f : κ → μ} {rules : List (Rule κ)} {line : List Char} {rule : Rule μ}
    {command : μ} (h : Rule.first? (rules.map (.map f)) line = some (rule, .ok command)) :
    ∃ own said, Rule.first? rules line = some (own, .ok said) ∧ command = f said := by
  rw [first?_map] at h
  obtain ⟨⟨own, result⟩, hfirst, h⟩ := Option.map_eq_some_iff.mp h
  cases result with
  | error e => cases h
  | ok said => cases h; exact ⟨own, said, hfirst, rfl⟩

lemma first?_given {scenario : Scenario} {line : List Char} {rule : Rule Command} {command : Command}
    (h : Rule.first? (rulesOf scenario) line = some (rule, .ok command)) : Given command := by
  cases scenario with
  | math =>
    obtain ⟨own, said, hfirst, rfl⟩ := first?_of_map h
    obtain ⟨hrule, form, hform, hmatch⟩ := first?_mem hfirst
    obtain ⟨values, hvalues, rfl⟩ := form_finite hmatch
    exact math_forms_finite hrule hform hvalues
  | _ =>
    obtain ⟨own, said, -, rfl⟩ := first?_of_map h
    trivial

lemma classify_given {scenario : Scenario} {line : String} {statement : Statement}
    (h : classify (rulesOf scenario) line = .ok statement) : Given statement.command := by
  unfold classify at h
  simp only at h
  split at h
  · cases h
  · cases h
  · next rule command hfirst => cases h; exact first?_given hfirst

lemma perform_keeps {command : Command} (hcommand : Given command) (scenario : Scenario) :
    Keeps (fun state => Held state ∧ state.scenario = scenario) (· ≠ .overflow) command.perform := by
  rintro state ⟨hheld, rfl⟩
  unfold Command.perform
  split
  · exact ends_within _ _ (fun _ => ⟨trivial, rfl⟩) fun _ => nofun
  · exact ends_within _ _ (fun _ => ⟨trivial, rfl⟩) fun _ => nofun
  · exact ends_within _ _ (fun _ => ⟨trivial, rfl⟩) fun _ => nofun
  · exact (math_keeps hcommand).within (fun _ h => ⟨h, rfl⟩) (fun _ _ => nofun) hheld
  · exact ends_within _ _ (fun _ => ⟨trivial, rfl⟩) fun _ => nofun
  · exact ends_within _ _ (fun _ => ⟨trivial, rfl⟩) fun _ => nofun
  · exact ends_within _ _ (fun _ => ⟨trivial, rfl⟩) fun _ => nofun
  · exact ends_within _ _ (fun _ => ⟨trivial, rfl⟩) fun _ => nofun
  · refine (aiChat_keeps _).within (fun _ h => ⟨h, rfl⟩) (fun _ h => ?_) hheld
    exact h
  · exact ends_within _ _ (fun _ => ⟨trivial, rfl⟩) fun _ => nofun
  · exact nofun

lemma attempt_kept {keeps : State → Prop} {rules : List (Rule Command)} {line : String}
    (hkeeps : Keeps keeps (· ≠ .overflow) (execute rules line)) {state : State}
    (hstate : keeps state) (number : Nat) :
    ∃ result next, attempt rules state number line = some (result, next) ∧ keeps next := by
  have hends := hkeeps state hstate
  unfold attempt
  cases hrun : execute rules line state with
  | ok effect next =>
    rw [hrun] at hends
    exact ⟨_, next, rfl, hends⟩
  | error stop next =>
    rw [hrun] at hends
    have hnext := execute_atomic rules line state stop next hrun
    cases stop with
    | failed failure => exact ⟨_, next, rfl, hnext ▸ hstate⟩
    | overflow => exact absurd rfl hends

lemma runStatements_kept {keeps : State → Prop} {rules : List (Rule Command)}
    (hkeeps : ∀ line, Keeps keeps (· ≠ .overflow) (execute rules line)) {state : State}
    (hstate : keeps state) (statements : List (Nat × String)) :
    ∃ results last, runStatements rules state statements = some (results, last) ∧ keeps last := by
  induction statements generalizing state with
  | nil => exact ⟨[], state, rfl, hstate⟩
  | cons statement more ih =>
    obtain ⟨result, next, hattempt, hnext⟩ := attempt_kept (hkeeps statement.2) hstate statement.1
    obtain ⟨results, last, hmore, hlast⟩ := ih hnext
    refine ⟨result :: results, last, ?_, hlast⟩
    rw [runStatements]
    simp only [hattempt, hmore, Option.bind_eq_bind, Option.bind_some, Option.pure_def]

lemma execute_held (scenario : Scenario) (line : String) :
    Keeps (fun state => Held state ∧ state.scenario = scenario) (· ≠ .overflow)
      (execute (rulesOf scenario) line) :=
  keeps_check (fun _ h => perform_keeps (classify_given h) scenario) fun _ => nofun

lemma interpret_held {scenario : Scenario} {state : State} (hheld : Held state)
    (hscenario : state.scenario = scenario) (code : String) :
    ∃ results last, interpret scenario state code = some (results, last) ∧
      Held last ∧ last.scenario = scenario :=
  runStatements_kept (execute_held scenario) ⟨hheld, hscenario⟩ (Text.statements code)

end Microworlds.Proofs

import Microworlds.Proofs.Atomicity
import Microworlds.Proofs.Counter
import Microworlds.Proofs.History
import Mathlib.Logic.Function.Iterate

/-!
# Steps of the simulation

Frames can be taken at once or in parts: two steps do what one step of all their frames does. A step
moves bodies and counts frames, and leaves everything else as it was. It succeeds only while the
simulation is running, which is from a start that succeeded up to the next stop that does.
-/

namespace Microworlds.Proofs

/-! ### Frames -/

/-- What of a body stays the same when it moves: its name, its mass and its radius. -/
def nature (body : Physics.Body) : String × Float × Float :=
  (body.name, body.mass, body.radius)

lemma nature_atWalls (r : Float) (body : Physics.Body) :
    nature (Physics.atWalls r body) = nature body := by
  unfold Physics.atWalls
  split <;> rfl

lemma nature_atCeiling (r : Float) (body : Physics.Body) :
    nature (Physics.atCeiling r body) = nature body := by
  unfold Physics.atCeiling
  split <;> rfl

lemma nature_atFloor (r : Float) (body : Physics.Body) :
    nature (Physics.atFloor r body) = nature body := by
  unfold Physics.atFloor
  split <;> rfl

lemma nature_advance (gravity : Float) (body : Physics.Body) :
    nature (body.advance gravity) = nature body := by
  unfold Physics.Body.advance
  rw [nature_atFloor, nature_atCeiling, nature_atWalls]
  rfl

/-- What some frames do to a box: there are the same bodies in the same order, and the frames are
counted as far as the counter goes. -/
structure Passed (frames : Nat) (before after : Physics.State) : Prop where
  gravity : after.gravity = before.gravity
  running : after.running = before.running
  bodies : after.bodies.map nature = before.bodies.map nature
  frame : after.frame.toNat = min Word.greatest64 (before.frame.toNat + frames)

lemma passed_zero (state : Physics.State) : Passed 0 state state where
  gravity := rfl
  running := rfl
  bodies := rfl
  frame := by
    have hframe : state.frame.toNat ≤ Word.greatest64 := Nat.le_of_lt_succ state.frame.toNat_lt_size
    omega

lemma passed_advance (state : Physics.State) : Passed 1 state state.advance where
  gravity := rfl
  running := rfl
  bodies := by
    change (state.bodies.map _).map nature = _
    rw [List.map_map]
    apply List.map_congr_left
    intro body _
    exact nature_advance state.gravity body
  frame := toNat_add state.frame 1

lemma Passed.trans {m n : Nat} {a b c : Physics.State} (hab : Passed m a b) (hbc : Passed n b c) :
    Passed (m + n) a c where
  gravity := hbc.gravity.trans hab.gravity
  running := hbc.running.trans hab.running
  bodies := hbc.bodies.trans hab.bodies
  frame := by
    have hfirst := hab.frame
    have hthen := hbc.frame
    omega

lemma advanceBy_eq_iterate (frames : Nat) (state : Physics.State) :
    state.advanceBy frames = Physics.State.advance^[frames] state := by
  induction frames generalizing state with
  | zero => rfl
  | succ frames ih =>
    rw [Physics.State.advanceBy, ih, Function.iterate_succ_apply]

lemma advanceBy_add (m n : Nat) (state : Physics.State) :
    state.advanceBy (m + n) = (state.advanceBy m).advanceBy n := by
  rw [Nat.add_comm, advanceBy_eq_iterate, advanceBy_eq_iterate, advanceBy_eq_iterate]
  exact Function.iterate_add_apply _ n m state

lemma passed_advanceBy (frames : Nat) (state : Physics.State) :
    Passed frames state (state.advanceBy frames) := by
  induction frames with
  | zero => exact passed_zero state
  | succ frames ih =>
    rw [advanceBy_add frames 1]
    exact ih.trans (passed_advance _)

/-! ### What commands do -/

/-- What each command does to the box when it succeeds. -/
inductive PhysicsChange (state : Physics.State) : Physics.Command → Physics.State → Prop
  | setGravity (g : Float) : PhysicsChange state (.setGravity g) { state with gravity := g }
  | create (name : String) (x y mass : Float) (body : Physics.Body) (hname : body.name = name)
      (hnew : ∀ other ∈ state.bodies, other.name ≠ name) :
    PhysicsChange state (.create name x y mass) { state with bodies := state.bodies ++ [body] }
  | applyForce (magnitude : Float) (target : String) (bodies : List Physics.Body)
      (hbodies : bodies.map nature = state.bodies.map nature) :
    PhysicsChange state (.applyForce magnitude target) { state with bodies }
  | start (hidle : state.running = false) :
    PhysicsChange state .start { state with running := true }
  | stop (hrunning : state.running = true) :
    PhysicsChange state .stop { state with running := false }
  | step (frames : UInt32) (hrunning : state.running = true)
      (hbodies : Physics.checkBodies state.bodies = .ok ()) :
    PhysicsChange state (.step frames) (state.advanceBy frames.toNat)

variable {state after : Physics.State} {command : Physics.Command} {effect : Effect}

lemma nature_push {impulse : Float → Float} {name : String} {bodies pushed : List Physics.Body}
    {vx : Float} (h : Physics.push impulse name bodies = some (vx, pushed)) :
    pushed.map nature = bodies.map nature := by
  induction bodies generalizing vx pushed with
  | nil => cases h
  | cons body more ih =>
    rw [Physics.push] at h
    split at h
    · cases h
      rfl
    · obtain ⟨⟨found, others⟩, hmore, hpair⟩ := Option.map_eq_some_iff.mp h
      cases hpair
      rw [List.map_cons, List.map_cons, ih hmore]

lemma physics_change (h : Physics.perform command state = .ok effect after) :
    PhysicsChange state command after := by
  cases command with
  | setGravity g =>
    obtain ⟨-, h⟩ := bind_stopIf_ok h
    cases h
    exact .setGravity g
  | create name x y mass =>
    obtain ⟨-, h⟩ := bind_stopIf_ok h
    obtain ⟨-, h⟩ := bind_stopIf_ok h
    obtain ⟨hnew, h⟩ := bind_stopIf_ok (bind_get_ok h)
    cases h
    exact .create name x y mass _ rfl (by simpa using hnew)
  | applyForce magnitude target =>
    obtain ⟨⟨vx, bodies⟩, hpush, h⟩ := bind_required_ok (bind_get_ok h)
    cases h
    exact .applyForce magnitude target bodies (nature_push hpush)
  | start =>
    obtain ⟨hidle, h⟩ := bind_stopIf_ok (bind_get_ok h)
    cases h
    exact .start hidle
  | stop =>
    obtain ⟨hrunning, h⟩ := bind_stopIf_ok (bind_get_ok h)
    cases h
    exact .stop (by simpa using hrunning)
  | step frames =>
    obtain ⟨hrunning, h⟩ := bind_stopIf_ok (bind_get_ok h)
    obtain ⟨_, hbodies, h⟩ := bind_liftM_ok (bind_get_ok h)
    cases h
    exact .step frames (by simpa using hrunning) hbodies

lemma step_of_running (frames : UInt32) (hrunning : state.running = true)
    (hbodies : Physics.checkBodies state.bodies = .ok ()) :
    ∃ effect, Physics.perform (.step frames) state = .ok effect (state.advanceBy frames.toNat) := by
  change ∃ effect, Physics.step frames state = _
  unfold Physics.step
  rw [run_get, run_stopIf, hrunning, run_get, run_liftM, hbodies]
  exact ⟨_, rfl⟩

lemma step_add {middle last : Physics.State} {a b : UInt32} {first second : Effect}
    (hframes : a.toNat + b.toNat < UInt32.size)
    (hfirst : Physics.perform (.step a) state = .ok first middle)
    (hsecond : Physics.perform (.step b) middle = .ok second last) :
    ∃ whole, Physics.perform (.step (a + b)) state = .ok whole last := by
  have htotal : (a + b).toNat = a.toNat + b.toNat := by
    rw [UInt32.toNat_add]
    exact Nat.mod_eq_of_lt hframes
  cases physics_change hfirst with
  | step _ hrunning hbodies =>
    cases physics_change hsecond with
    | step =>
      rw [← advanceBy_add, ← htotal]
      exact step_of_running (a + b) hrunning hbodies

/-! ### Histories -/

/-- Among some commands that succeeded there is a start, and no stop behind it. -/
def Started (commands : List Physics.Command) : Prop :=
  ∃ before between, commands = before ++ .start :: between ∧ .stop ∉ between

lemma not_started_nil : ¬ Started [] := by
  rintro ⟨before, between, hcommands, -⟩
  simp at hcommands

lemma started_concat {commands : List Physics.Command} {last : Physics.Command} :
    Started (commands ++ [last]) ↔ last = .start ∨ Started commands ∧ last ≠ .stop := by
  constructor
  · rintro ⟨before, between, hcommands, hstop⟩
    obtain rfl | ⟨earlier, final, rfl⟩ := List.eq_nil_or_concat' between
    · exact .inl (List.append_inj_right' hcommands rfl |> List.singleton_inj.mp)
    · rw [← List.cons_append, ← List.append_assoc] at hcommands
      obtain ⟨hearlier, hlast⟩ := List.append_inj' hcommands rfl
      rw [List.singleton_inj] at hlast
      subst hlast
      rw [List.mem_append, not_or] at hstop
      refine .inr ⟨⟨before, earlier, hearlier, hstop.1⟩, ?_⟩
      intro hlast
      exact hstop.2 (hlast ▸ List.mem_singleton_self _)
  · rintro (rfl | ⟨⟨before, between, rfl, hstop⟩, hlast⟩)
    · exact ⟨commands, [], rfl, List.not_mem_nil⟩
    · refine ⟨before, between ++ [last], by simp, ?_⟩
      rw [List.mem_append, not_or, List.mem_singleton]
      exact ⟨hstop, hlast.symm⟩

/-- What holds of the box after some commands that succeeded. -/
structure Simulation (succeeded : List Physics.Command) (state : Physics.State) : Prop where
  names : (state.bodies.map (·.name)).Nodup
  running : state.running = true ↔ Started succeeded

lemma simulation_initial : Simulation [] .initial where
  names := List.nodup_nil
  running := by
    constructor
    · intro hrunning
      cases hrunning
    · intro hstarted
      exact absurd hstarted not_started_nil

lemma names_eq_of_nature {bodies others : List Physics.Body}
    (h : bodies.map nature = others.map nature) :
    bodies.map (·.name) = others.map (·.name) := by
  have hnames := congrArg (List.map Prod.fst) h
  rwa [List.map_map, List.map_map] at hnames

lemma Simulation.change {succeeded : List Physics.Command} (h : Simulation succeeded state)
    (hchange : PhysicsChange state command after) : Simulation (succeeded ++ [command]) after := by
  have hother : command ≠ .start → command ≠ .stop →
      (state.running = true ↔ Started (succeeded ++ [command])) := by
    intro hstart hstop
    rw [h.running, started_concat]
    simp [hstart, hstop]
  cases hchange with
  | setGravity g => exact ⟨h.names, hother nofun nofun⟩
  | create name x y mass body hname hnew =>
    refine ⟨?_, hother nofun nofun⟩
    rw [List.map_append, List.nodup_append]
    refine ⟨h.names, List.pairwise_singleton _ _, ?_⟩
    intro a ha b hb
    obtain ⟨other, hmem, rfl⟩ := List.mem_map.mp ha
    rw [List.map_singleton, List.mem_singleton] at hb
    rw [hb, hname]
    exact hnew other hmem
  | applyForce magnitude target bodies hbodies =>
    refine ⟨?_, hother nofun nofun⟩
    rw [names_eq_of_nature hbodies]
    exact h.names
  | start hidle =>
    refine ⟨h.names, ?_⟩
    rw [started_concat]
    simp
  | stop hrunning =>
    refine ⟨h.names, ?_⟩
    rw [started_concat]
    simp
  | step frames hrunning hbodies =>
    have hpassed := passed_advanceBy frames.toNat state
    refine ⟨?_, ?_⟩
    · rw [names_eq_of_nature hpassed.bodies]
      exact h.names
    · rw [hpassed.running]
      exact hother nofun nofun

lemma simulation_history (commands : List Physics.Command) :
    Simulation (carriedOut (history Physics.perform .initial commands))
      (reached Physics.perform .initial commands) := by
  apply history_induction physics_atomic
    (motive := fun events state => Simulation (carriedOut events) state) simulation_initial
  · intro events state command effect after h hperform
    rw [carriedOut_success]
    exact h.change (physics_change hperform)
  · intro events state command e h
    rwa [carriedOut_failure]

/-- Steps of the simulation compose. If a step succeeds, and then another one, then one step of the
frames of both succeeds at once and ends in the same state. A step keeps gravity, whether the simulation
is running, and which bodies there are in which order, with their names, masses and radii; the counter
of frames grows by the frames of the step as far as it goes. After any commands, tried with success or
without, no two bodies have one name, and a step succeeds if and only if there was a start with no stop
since then, both of which succeeded, and each body is within the limits of the simulation. -/
theorem simulation_steps_compose :
    (∀ (state middle last : Physics.State) (a b : UInt32) (first second : Effect),
      a.toNat + b.toNat < UInt32.size →
      Physics.perform (.step a) state = .ok first middle →
      Physics.perform (.step b) middle = .ok second last →
      ∃ whole, Physics.perform (.step (a + b)) state = .ok whole last) ∧
    (∀ (state after : Physics.State) (frames : UInt32) (effect : Effect),
      Physics.perform (.step frames) state = .ok effect after → Passed frames.toNat state after) ∧
    ∀ commands : List Physics.Command,
      let events := history Physics.perform .initial commands
      let state := reached Physics.perform .initial commands
      (state.bodies.map (·.name)).Nodup ∧
      ∀ frames : UInt32,
        (∃ effect after, Physics.perform (.step frames) state = .ok effect after) ↔
          Started (carriedOut events) ∧ Physics.checkBodies state.bodies = .ok () := by
  refine ⟨?_, ?_, ?_⟩
  · intro state middle last a b first second hframes hfirst hsecond
    exact step_add hframes hfirst hsecond
  · intro state after frames effect hstep
    cases physics_change hstep with
    | step => exact passed_advanceBy frames.toNat state
  · intro commands events state
    have h : Simulation (carriedOut events) state := simulation_history commands
    refine ⟨h.names, ?_⟩
    intro frames
    constructor
    · rintro ⟨effect, after, hstep⟩
      cases physics_change hstep with
      | step _ hrunning hbodies => exact ⟨h.running.mp hrunning, hbodies⟩
    · rintro ⟨hstarted, hbodies⟩
      obtain ⟨effect, hstep⟩ := step_of_running frames (h.running.mpr hstarted) hbodies
      exact ⟨effect, _, hstep⟩

/-- A ball in the upper part of the box. The first step, the stop and the second start are refused. -/
def fallingBall : List Physics.Command :=
  [.step 1, .create "ball" 50 10 1, .stop, .start, .start]

lemma checkBodies_of_toBool {bodies : List Physics.Body}
    (h : (Physics.checkBodies bodies).toBool = true) : Physics.checkBodies bodies = .ok () := by
  cases hchecked : Physics.checkBodies bodies with
  | ok => rfl
  | error e =>
    rw [hchecked] at h
    cases h

theorem fallingBall_seven_frames :
    let state := reached Physics.perform .initial fallingBall
    Started (carriedOut (history Physics.perform .initial fallingBall)) ∧
    ∃ first middle second last whole,
      Physics.perform (.step 3) state = .ok first middle ∧
      Physics.perform (.step 4) middle = .ok second last ∧
      Physics.perform (.step 7) state = .ok whole last ∧ Passed 7 state last := by
  intro state
  have hrunning : state.running = true := by decide +kernel
  have hbodies : Physics.checkBodies state.bodies = .ok () :=
    checkBodies_of_toBool (by decide +kernel)
  have hmoved : Physics.checkBodies (state.advanceBy 3).bodies = .ok () :=
    checkBodies_of_toBool (by decide +kernel)
  obtain ⟨hadd, hpassed, hhistory⟩ := simulation_steps_compose
  obtain ⟨first, hfirst⟩ := step_of_running 3 hrunning hbodies
  obtain ⟨second, hsecond⟩ := @step_of_running (state.advanceBy 3) 4
    ((passed_advanceBy 3 state).running.trans hrunning) hmoved
  obtain ⟨whole, hwhole⟩ := hadd _ _ _ 3 4 _ _ (by decide) hfirst hsecond
  have hstarted := ((hhistory fallingBall).2 3).mp ⟨first, _, hfirst⟩
  exact ⟨hstarted.1, first, _, second, _, whole, hfirst, hsecond, hwhole,
    hpassed _ _ 7 whole hwhole⟩

end Microworlds.Proofs

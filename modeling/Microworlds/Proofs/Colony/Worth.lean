import Microworlds.Proofs.Colony.Change
import Microworlds.Proofs.History

/-!
# Nothing is gained in a colony

The worth of a colony in a resource is its balance with all that would come back if every structure were
taken down. No command but an assignment or an addition makes it greater. So no order of building,
taking down, disasters and subtractions gives a colony more than it had.
-/

namespace Microworlds.Proofs

/-- Whether a command assigns a resource or adds to it. -/
def gives : Colony.Command → Bool
  | .setResource _ _ => true
  | .adjustResource _ .plus _ => true
  | _ => false

/-- What comes back of a resource when all structures are taken down. -/
def ruins (resource : String) (structures : List Colony.Structure) : Nat :=
  (structures.map fun s => due (salvage s.kind) resource).sum

def worth (resource : String) (state : Colony.State) : Nat :=
  (Stock.amount state.resources resource).toNat + ruins resource state.structures

variable {state after : Colony.State} {command : Colony.Command}

/-! ### Refunds -/

lemma toNat_refund {paid : UInt64} (h : 1 < paid) : ((paid + 1) / 2).toNat ≤ paid.toNat := by
  rw [UInt64.lt_iff_toNat_lt] at h
  have hone : (1 : UInt64).toNat = 1 := rfl
  have htwo : (2 : UInt64).toNat = 2 := rfl
  rw [UInt64.toNat_div, UInt64.toNat_add, hone, htwo]
  omega

lemma due_refund_le (cost : Cost) (resource : String) :
    due (Colony.refund cost) resource ≤ due cost resource := by
  induction cost with
  | nil => exact Nat.le_refl 0
  | cons first more ih =>
    obtain ⟨name, paid⟩ := first
    rw [due_cons]
    by_cases h : 1 < paid
    · have hcons : Colony.refund ((name, paid) :: more) =
          (name, (paid + 1) / 2) :: Colony.refund more := by
        simp [Colony.refund, h]
      have hback := toNat_refund h
      rw [hcons, due_cons]
      by_cases hname : name = resource
      · rw [if_pos hname, if_pos hname]
        omega
      · rw [if_neg hname, if_neg hname]
        omega
    · have hcons : Colony.refund ((name, paid) :: more) = Colony.refund more := by
        simp [Colony.refund, h]
      rw [hcons]
      omega

lemma salvage_eq {kind : String} {cost : Cost} {hp : UInt32}
    (h : Colony.structureKind? kind = some (cost, hp)) : salvage kind = Colony.refund cost := by
  rw [salvage, h]

/-! ### Single commands -/

lemma ruins_append (resource : String) (front back : List Colony.Structure) :
    ruins resource (front ++ back) = ruins resource front + ruins resource back := by
  unfold ruins
  rw [List.map_append, List.sum_append]

lemma ruins_cons (resource : String) (s : Colony.Structure) (more : List Colony.Structure) :
    ruins resource (s :: more) = due (salvage s.kind) resource + ruins resource more := by
  unfold ruins
  rw [List.map_cons, List.sum_cons]

lemma ruins_shaken (resource : String) (structures : List Colony.Structure) :
    ruins resource ((structures.map Colony.Structure.shaken).filter fun s => 0 < s.hp) ≤
      ruins resource structures := by
  have hkinds : ruins resource (structures.map Colony.Structure.shaken) =
      ruins resource structures := by
    unfold ruins
    rw [List.map_map]
    rfl
  rw [← hkinds]
  exact (List.filter_sublist.map _).sum_le_sum fun _ _ => Nat.zero_le _

lemma worth_change (h : ColonyChange state command after) (hgives : gives command = false)
    (resource : String) : worth resource after ≤ worth resource state := by
  unfold worth
  cases h with
  | setResource name amount hknown => cases hgives
  | increase name amount hknown => cases hgives
  | decrease name amount hknown =>
    apply Nat.add_le_add_right
    rw [amount_insert]
    by_cases hname : resource = name
    · subst hname
      rw [if_pos rfl, toNat_sub]
      exact Nat.sub_le _ _
    · rw [if_neg hname]
  | build kind x y cost hp resources hkind hcell hfree hpaid =>
    have hamount := hpaid.amounts resource
    have hback := due_refund_le cost resource
    rw [ruins_append, ruins_cons, salvage_eq hkind]
    simp only [ruins, List.map_nil, List.sum_nil]
    omega
  | demolish x y front back found hstructures hfront hfound =>
    simp only [hstructures, ruins_append, ruins_cons, amount_addAll]
    omega
  | flood kind hkind =>
    apply Nat.add_le_add_right
    rw [amount_insert]
    by_cases hname : resource = "food"
    · subst hname
      rw [if_pos rfl, UInt64.toNat_div]
      exact Nat.div_le_self _ _
    · rw [if_neg hname]
  | earthquake kind hkind => exact Nat.add_le_add_left (ruins_shaken resource state.structures) _
  | moveColonist | heal | revive | auto | pause | resume | setWeather | setTemperature =>
    exact Nat.le_refl _

lemma worth_happen (hgives : gives command = false) (resource : String) (state : Colony.State) :
    worth resource (happen Colony.perform state command).after ≤ worth resource state := by
  obtain ⟨effect, after, hperform, hhappen⟩ | ⟨e, hhappen⟩ :=
    happen_cases (colony_atomic command) state
  · rw [hhappen]
    exact worth_change (colony_change hperform) hgives resource
  · rw [hhappen]

/-! ### Building and taking down -/

lemma takeDown_last {structures : List Colony.Structure} {s : Colony.Structure} {x y : Int64}
    (hcell : structureCell s = (x, y)) (hfree : (x, y) ∉ structures.map structureCell) :
    Colony.takeDown x y (structures ++ [s]) = some (s, structures) := by
  induction structures with
  | nil =>
    cases hcell
    simp [Colony.takeDown]
  | cons first more ih =>
    rw [List.map_cons, List.mem_cons, not_or] at hfree
    have hfirst : ¬ (first.x = x ∧ first.y = y) := by
      rintro ⟨rfl, rfl⟩
      exact hfree.1 rfl
    rw [List.cons_append, Colony.takeDown, if_neg (by simpa using hfirst), ih hfree.2]
    rfl

lemma demolish_of_takeDown (state : Colony.State) {x y : Int64} {found : Colony.Structure}
    {others : List Colony.Structure} (h : Colony.takeDown x y state.structures = some (found, others)) :
    ∃ effect, Colony.perform (.demolish x y) state = .ok effect
      { state with
        structures := others
        resources := Stock.addAll state.resources (salvage found.kind) } := by
  apply Exists.intro
  change (Handler.required _ (Colony.takeDown x y state.structures) >>= _) state = _
  rw [h]
  rfl

lemma demolish_built {kind : String} {x y : Int64} {effect : Effect} {built : Colony.State}
    (h : Colony.perform (.build kind x y) state = .ok effect built) :
    ∃ cost hp effect' last, Colony.structureKind? kind = some (cost, hp) ∧
      Colony.perform (.demolish x y) built = .ok effect' last ∧
      last.structures = state.structures ∧
      ∀ resource, due (Colony.refund cost) resource ≤ due cost resource ∧
        (Stock.amount last.resources resource).toNat +
            (due cost resource - due (Colony.refund cost) resource) =
          (Stock.amount state.resources resource).toNat := by
  cases colony_change h with
  | build _ _ _ cost hp resources hkind hcell hfree hpaid =>
    obtain ⟨effect', hdemolish⟩ := demolish_of_takeDown
      { state with resources, structures := state.structures ++ [⟨kind, x, y, hp, hp⟩] }
      (takeDown_last rfl hfree)
    refine ⟨cost, hp, effect', _, hkind, hdemolish, rfl, fun resource => ?_⟩
    have hrefund := due_refund_le cost resource
    have hamount := hpaid.amounts resource
    have hlimit := amount_le state.resources resource
    -- the refund does not lift the balance over what it was, so the addition cannot end early
    simp only [amount_addAll, salvage_eq hkind]
    omega

/-! ### Runs -/

/-- No resource can be farmed. Whatever the colony is at first, the worth of it in a resource never
grows as long as nothing is assigned or added, whatever is tried and whatever fails. So a colony that
begins as usual has at no time more of a resource than at first. A structure that has been built can be
taken down at once; the structures are then as before, and of each resource the cost less the refund is
lost. -/
theorem no_resource_farmed (start : Colony.State) (resource : String) :
    (∀ commands : List Colony.Command, (∀ command ∈ commands, gives command = false) →
      ((visited Colony.perform start commands).map (worth resource)).Pairwise (· ≥ ·) ∧
      (start = .initial → ∀ state ∈ visited Colony.perform start commands,
        Stock.amount state.resources resource ≤ Stock.amount start.resources resource)) ∧
    ∀ kind x y effect built, Colony.perform (.build kind x y) start = .ok effect built →
      ∃ cost hp effect' last, Colony.structureKind? kind = some (cost, hp) ∧
        Colony.perform (.demolish x y) built = .ok effect' last ∧
        last.structures = start.structures ∧
        due (Colony.refund cost) resource ≤ due cost resource ∧
        (Stock.amount last.resources resource).toNat +
            (due cost resource - due (Colony.refund cost) resource) =
          (Stock.amount start.resources resource).toNat := by
  refine ⟨fun commands hgives => ?_, fun kind x y effect built hbuild => ?_⟩
  · have hdescends : ((visited Colony.perform start commands).map (worth resource)).Pairwise
        (· ≥ ·) :=
      visited_descends (fun command hcommand => worth_happen (hgives command hcommand) resource) start
    refine ⟨hdescends, fun hstart state hstate => ?_⟩
    have hworth : worth resource state ≤ worth resource start := by
      rcases List.mem_cons.mp hstate with rfl | hlater
      · exact Nat.le_refl _
      · exact (List.pairwise_cons.mp hdescends).1 _ (List.mem_map_of_mem hlater)
    subst hstart
    -- no structure stands at first, so the first worth is the first balance
    exact UInt64.le_iff_toNat_le.mpr ((Nat.le_add_right _ _).trans hworth)
  · obtain ⟨cost, hp, effect', last, hkind, hdemolish, hstructures, hresources⟩ :=
      demolish_built hbuild
    exact ⟨cost, hp, effect', last, hkind, hdemolish, hstructures, hresources resource⟩

/-- A colony that builds, is struck by both disasters and builds again where it has taken down. -/
def rebuilding : List Colony.Command :=
  [.build "house" 4 4, .disaster "flood", .build "bed" 1 1, .disaster "earthquake", .demolish 1 1,
    .demolish 4 4, .adjustResource "food" .minus 500, .build "house" 4 4]

theorem rebuilding_gains_nothing :
    (∀ command ∈ rebuilding, gives command = false) ∧
    (∀ state ∈ visited Colony.perform .initial rebuilding,
      Stock.amount state.resources "wood" ≤ Stock.amount Colony.State.initial.resources "wood") ∧
    ∃ effect built, Colony.perform (.build "house" 4 4) .initial = .ok effect built ∧
      ∃ cost hp effect' last, Colony.structureKind? "house" = some (cost, hp) ∧
        Colony.perform (.demolish 4 4) built = .ok effect' last ∧ last.structures = [] ∧
        due (Colony.refund cost) "wood" ≤ due cost "wood" ∧
        (Stock.amount last.resources "wood").toNat +
            (due cost "wood" - due (Colony.refund cost) "wood") =
          (Stock.amount Colony.State.initial.resources "wood").toNat := by
  obtain ⟨hruns, hbuilds⟩ := no_resource_farmed .initial "wood"
  have hgives : ∀ command ∈ rebuilding, gives command = false := by decide
  have hbuild : (match Colony.perform (.build "house" 4 4) .initial with
      | .ok _ _ => true
      | .error _ _ => false) = true := by
    decide +kernel
  refine ⟨hgives, (hruns rebuilding hgives).2 rfl, ?_⟩
  split at hbuild
  · next effect built h => exact ⟨effect, built, h, hbuilds "house" 4 4 effect built h⟩
  · cases hbuild

end Microworlds.Proofs

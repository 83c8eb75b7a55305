import Microworlds.Proofs.Atomicity
import Microworlds.Proofs.Board
import Microworlds.Proofs.Stock

/-!
# What commands do in a colony

A command that succeeds makes one of the changes of `ColonyChange`. All that a colony keeps is shown of
these.
-/

namespace Microworlds.Proofs

def structureCell (s : Colony.Structure) : Int64 × Int64 := (s.x, s.y)

/-- What comes back when a structure of a kind is taken down. -/
def salvage (kind : String) : Cost :=
  match Colony.structureKind? kind with
  | some (cost, _) => Colony.refund cost
  | none => []

/-- What each command does to a colony when it succeeds. -/
inductive ColonyChange (state : Colony.State) : Colony.Command → Colony.State → Prop
  | setResource (resource : String) (amount : UInt64) (hknown : resource ∈ Colony.resourceNames) :
    ColonyChange state (.setResource resource amount)
      { state with resources := state.resources.insert resource amount }
  | increase (resource : String) (amount : UInt64) (hknown : resource ∈ Colony.resourceNames) :
    ColonyChange state (.adjustResource resource .plus amount)
      { state with
        resources := state.resources.insert resource
          (Counter.add (Stock.amount state.resources resource) amount) }
  | decrease (resource : String) (amount : UInt64) (hknown : resource ∈ Colony.resourceNames) :
    ColonyChange state (.adjustResource resource .minus amount)
      { state with
        resources := state.resources.insert resource
          (Counter.sub (Stock.amount state.resources resource) amount) }
  | moveColonist (x y : Int64) (index : Nat) (colonist : Colony.Colonist)
      (hcell : Within 20 20 (x, y)) (hselected : state.selected = some index)
      (hcolonist : state.colonists[index]? = some colonist) (hstanding : colonist.downed = false) :
    ColonyChange state (.moveColonist x y) (Colony.withColonist state index { colonist with x, y })
  | heal (index : Nat) (colonist : Colony.Colonist) (hselected : state.selected = some index)
      (hcolonist : state.colonists[index]? = some colonist) (hstanding : colonist.downed = false) :
    ColonyChange state .heal
      (Colony.withColonist state index { colonist with hp := Colony.healed colonist })
  | revive (front back : List Colony.Colonist) (colonist : Colony.Colonist)
      (hcolonists : state.colonists = front ++ colonist :: back)
      (hfront : ∀ c ∈ front, c.downed = false) (hdowned : colonist.downed = true) :
    ColonyChange state .revive
      { state with colonists := front ++ { colonist with downed := false, hp := 1 } :: back }
  | build (kind : String) (x y : Int64) (cost : Cost) (hp : UInt32) (resources : Stock)
      (hkind : Colony.structureKind? kind = some (cost, hp)) (hcell : Within 20 20 (x, y))
      (hfree : (x, y) ∉ state.structures.map structureCell)
      (hpaid : Paid cost state.resources resources) :
    ColonyChange state (.build kind x y)
      { state with resources, structures := state.structures ++ [⟨kind, x, y, hp, hp⟩] }
  | demolish (x y : Int64) (front back : List Colony.Structure) (found : Colony.Structure)
      (hstructures : state.structures = front ++ found :: back)
      (hfront : ∀ s ∈ front, structureCell s ≠ (x, y)) (hfound : structureCell found = (x, y)) :
    ColonyChange state (.demolish x y)
      { state with
        structures := front ++ back
        resources := Stock.addAll state.resources (salvage found.kind) }
  | auto (on : Bool) : ColonyChange state (.auto on) { state with autoMode := on }
  | pause : ColonyChange state .pause { state with paused := true }
  | resume : ColonyChange state .resume { state with paused := false }
  | setWeather (word : String) (weather : Colony.Weather)
      (hweather : Colony.Weather.ofWord? word = some weather) :
    ColonyChange state (.setWeather word) { state with weather }
  | setTemperature (degrees : Int64) :
    ColonyChange state (.setTemperature degrees) { state with temperature := degrees }
  | flood (kind : String) (hkind : kind ∈ ["flood", "洪水"]) :
    ColonyChange state (.disaster kind)
      { state with
        resources := state.resources.insert "food" (Stock.amount state.resources "food" / 2) }
  | earthquake (kind : String) (hkind : kind ∈ ["earthquake", "地震"]) :
    ColonyChange state (.disaster kind)
      { state with
        structures := (state.structures.map Colony.Structure.shaken).filter fun s => 0 < s.hp
        colonists := state.colonists.map Colony.Colonist.shaken }

lemma structureKind?_names {kind : String} {cost : Cost} {hp : UInt32}
    (h : Colony.structureKind? kind = some (cost, hp)) : (cost.map Prod.fst).Nodup := by
  unfold Colony.structureKind? at h
  split at h <;> cases h <;> decide

lemma knownResource_ok {name : String} {u : Unit} (h : Colony.knownResource name = .ok u) :
    name ∈ Colony.resourceNames := by
  unfold Colony.knownResource at h
  split at h
  · next hknown => exact List.contains_iff_mem.mp hknown
  · cases h

lemma onMap_ok {x y : Int64} {u : Unit} (h : Colony.onMap x y = .ok u) : Within 20 20 (x, y) := by
  unfold Colony.onMap at h
  split at h
  · next hcell => exact ⟨hcell.1, hcell.2.1, hcell.2.2.1, hcell.2.2.2⟩
  · cases h

lemma selectedColonist_ok {state : Colony.State} {index : Nat} {colonist : Colony.Colonist}
    (h : Colony.selectedColonist state = .ok (index, colonist)) :
    state.selected = some index ∧ state.colonists[index]? = some colonist := by
  unfold Colony.selectedColonist at h
  split at h
  · cases h
  · next hselected =>
    split at h
    · cases h
    · next hcolonist =>
      cases h
      exact ⟨hselected, hcolonist⟩

lemma standingColonist_ok {state : Colony.State} {index : Nat} {colonist : Colony.Colonist}
    (h : Colony.standingColonist state = .ok (index, colonist)) :
    state.selected = some index ∧ state.colonists[index]? = some colonist ∧
      colonist.downed = false := by
  unfold Colony.standingColonist at h
  cases hselected : Colony.selectedColonist state with
  | error e =>
    rw [hselected] at h
    cases h
  | ok found =>
    obtain ⟨place, chosen⟩ := found
    rw [hselected] at h
    change (if chosen.downed then _ else Except.ok (place, chosen)) = _ at h
    split at h
    · cases h
    · next hstanding =>
      cases h
      obtain ⟨hindex, hcolonist⟩ := selectedColonist_ok hselected
      exact ⟨hindex, hcolonist, by simpa using hstanding⟩

lemma reviveFirst_eq_some {colonists revived : List Colony.Colonist} {name : String}
    (h : Colony.reviveFirst colonists = some (name, revived)) :
    ∃ front colonist back, colonists = front ++ colonist :: back ∧
      (∀ c ∈ front, c.downed = false) ∧ colonist.downed = true ∧
      revived = front ++ { colonist with downed := false, hp := 1 } :: back := by
  induction colonists generalizing revived with
  | nil => cases h
  | cons first more ih =>
    rw [Colony.reviveFirst] at h
    split at h
    · next hdowned =>
      cases h
      exact ⟨[], first, more, rfl, nofun, hdowned, rfl⟩
    · next hstanding =>
      obtain ⟨⟨_, others⟩, hothers, h⟩ := Option.map_eq_some_iff.mp h
      cases h
      obtain ⟨front, colonist, back, rfl, hfront, hdowned, rfl⟩ := ih hothers
      refine ⟨first :: front, colonist, back, rfl, ?_, hdowned, rfl⟩
      exact List.forall_mem_cons.mpr ⟨by simpa using hstanding, hfront⟩

lemma takeDown_eq_some {x y : Int64} {structures others : List Colony.Structure}
    {found : Colony.Structure} (h : Colony.takeDown x y structures = some (found, others)) :
    ∃ front back, structures = front ++ found :: back ∧ others = front ++ back ∧
      (∀ s ∈ front, structureCell s ≠ (x, y)) ∧ structureCell found = (x, y) := by
  induction structures generalizing others with
  | nil => cases h
  | cons first more ih =>
    rw [Colony.takeDown] at h
    split at h
    · next hcell =>
      cases h
      refine ⟨[], more, rfl, rfl, nofun, ?_⟩
      simpa [structureCell] using hcell
    · next hcell =>
      obtain ⟨⟨_, rest⟩, hrest, h⟩ := Option.map_eq_some_iff.mp h
      cases h
      obtain ⟨front, back, rfl, rfl, hfront, hfound⟩ := ih hrest
      refine ⟨first :: front, back, rfl, rfl, List.forall_mem_cons.mpr ⟨?_, hfront⟩, hfound⟩
      simpa [structureCell] using hcell

lemma colony_change {state after : Colony.State} {command : Colony.Command} {effect : Effect}
    (h : Colony.perform command state = .ok effect after) : ColonyChange state command after := by
  cases command with
  | setResource resource amount =>
    obtain ⟨_, hknown, h⟩ := bind_liftM_ok h
    cases h
    exact .setResource resource amount (knownResource_ok hknown)
  | adjustResource resource sign amount =>
    obtain ⟨_, hknown, h⟩ := bind_liftM_ok h
    cases sign with
    | plus => cases h; exact .increase resource amount (knownResource_ok hknown)
    | minus => cases h; exact .decrease resource amount (knownResource_ok hknown)
  | moveColonist x y =>
    obtain ⟨_, hcell, h⟩ := bind_liftM_ok h
    obtain ⟨⟨index, colonist⟩, hcolonist, h⟩ := bind_liftM_ok (bind_get_ok h)
    obtain ⟨hselected, hcolonist, hstanding⟩ := standingColonist_ok hcolonist
    cases h
    exact .moveColonist x y index colonist (onMap_ok hcell) hselected hcolonist hstanding
  | heal =>
    obtain ⟨⟨index, colonist⟩, hcolonist, h⟩ := bind_liftM_ok (bind_get_ok h)
    obtain ⟨hselected, hcolonist, hstanding⟩ := standingColonist_ok hcolonist
    cases h
    exact .heal index colonist hselected hcolonist hstanding
  | revive =>
    obtain ⟨⟨name, colonists⟩, hrevive, h⟩ := bind_required_ok (bind_get_ok h)
    obtain ⟨front, colonist, back, hcolonists, hfront, hdowned, rfl⟩ := reviveFirst_eq_some hrevive
    cases h
    exact .revive front back colonist hcolonists hfront hdowned
  | build kind x y =>
    obtain ⟨⟨cost, hp⟩, hkind, h⟩ := bind_required_ok h
    obtain ⟨_, hcell, h⟩ := bind_liftM_ok h
    obtain ⟨hfree, h⟩ := bind_stopIf_ok (bind_get_ok h)
    obtain ⟨_, _, hpay, h⟩ := bind_ok h
    obtain ⟨resources, hspend, rfl⟩ := on_ok hpay
    cases h
    exact .build kind x y cost hp resources hkind (onMap_ok hcell) (not_mem_of_any hfree)
      (paid_of_spend (structureKind?_names hkind) hspend)
  | demolish x y =>
    obtain ⟨⟨found, structures⟩, htake, h⟩ := bind_required_ok (bind_get_ok h)
    obtain ⟨front, back, hstructures, rfl, hfront, hfound⟩ := takeDown_eq_some htake
    cases h
    exact .demolish x y front back found hstructures hfront hfound
  | auto on => cases h; exact .auto on
  | pause => cases h; exact .pause
  | resume => cases h; exact .resume
  | setWeather word =>
    obtain ⟨weather, hweather, h⟩ := bind_required_ok h
    cases h
    exact .setWeather word weather hweather
  | setTemperature degrees => cases h; exact .setTemperature degrees
  | disaster kind =>
    simp only [Colony.perform] at h
    split at h
    · cases h; exact .flood _ (by simp)
    · cases h; exact .flood _ (by simp)
    · cases h; exact .earthquake _ (by simp)
    · cases h; exact .earthquake _ (by simp)
    · cases h

end Microworlds.Proofs

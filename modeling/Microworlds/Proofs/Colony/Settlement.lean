import Microworlds.Proofs.Colony.Change
import Microworlds.Proofs.History

/-!
# What holds of every colony

Whatever is done in a colony, its colonists and structures stand where they can, no health leaves its
range, who has no health left is downed and nobody else, and no resource comes or goes.
-/

namespace Microworlds.Proofs

/-- A colonist on the map, whose health is in its range and who is downed without any. -/
structure Hale (c : Colony.Colonist) : Prop where
  cell : Within 20 20 (c.x, c.y)
  hp : c.hp ≤ c.maxHp
  downed : c.downed = true ↔ c.hp = 0
  /-- Someone who is helped up has a health that is in its range. -/
  able : 0 < c.maxHp

/-- A structure of a kind that is known, with as much as it can bear, that has not fallen. -/
structure Sturdy (s : Colony.Structure) : Prop where
  kind : ∃ cost, Colony.structureKind? s.kind = some (cost, s.maxHp)
  standing : 0 < s.hp
  hp : s.hp ≤ s.maxHp

structure Settlement (state : Colony.State) : Prop where
  colonists : ∀ c ∈ state.colonists, Hale c
  selected : ∃ index, state.selected = some index ∧ index < state.colonists.length
  structures : ∀ s ∈ state.structures, Sturdy s
  cells : Layout 20 20 (state.structures.map structureCell)
  resources : ∀ name,
    state.resources.contains name = true ↔ name ∈ ["wood", "stone", "food", "metal"]

variable {state after : Colony.State} {command : Colony.Command}

/-! ### Colonists -/

lemma Hale.moved {c : Colony.Colonist} (h : Hale c) {x y : Int64} (hcell : Within 20 20 (x, y)) :
    Hale { c with x, y } :=
  { h with cell := hcell }

lemma toNat_healed (c : Colony.Colonist) :
    (Colony.healed c).toNat = min c.maxHp.toNat (min Word.greatest32 (c.hp.toNat + 1)) := by
  unfold Colony.healed
  rw [← toNat_next]
  change (if Counter.next c.hp ≤ c.maxHp then Counter.next c.hp else c.maxHp).toNat = _
  split
  · next h =>
    rw [UInt32.le_iff_toNat_le] at h
    omega
  · next h =>
    rw [UInt32.le_iff_toNat_le] at h
    omega

lemma eq_zero_iff (n : UInt32) : n = 0 ↔ n.toNat = 0 := by
  rw [← UInt32.toNat_inj]
  rfl

lemma Hale.healed {c : Colony.Colonist} (h : Hale c) (hstanding : c.downed = false) :
    Hale { c with hp := Colony.healed c } := by
  have hable := UInt32.lt_iff_toNat_lt.mp h.able
  have hzero : (0 : UInt32).toNat = 0 := rfl
  refine { h with hp := ?_, downed := ?_ }
  · rw [UInt32.le_iff_toNat_le, toNat_healed]
    exact Nat.min_le_left _ _
  · -- who stands is not downed by being healed
    rw [eq_zero_iff, toNat_healed, hstanding]
    simp only [Bool.false_eq_true, false_iff, Word.greatest32]
    omega

lemma Hale.revived {c : Colony.Colonist} (h : Hale c) : Hale { c with downed := false, hp := 1 } := by
  refine { h with hp := ?_, downed := ?_ }
  · have hable := UInt32.lt_iff_toNat_lt.mp h.able
    rw [UInt32.le_iff_toNat_le]
    exact hable
  · simp

lemma Hale.shaken {c : Colony.Colonist} (h : Hale c) : Hale c.shaken := by
  unfold Colony.Colonist.shaken
  split
  · exact h
  · refine { h with hp := ?_, downed := ?_ }
    · have hp := UInt32.le_iff_toNat_le.mp h.hp
      rw [UInt32.le_iff_toNat_le, toNat_reduce]
      exact (Nat.sub_le _ _).trans hp
    · simp

/-! ### Structures -/

lemma structureKind?_pos {kind : String} {cost : Cost} {hp : UInt32}
    (h : Colony.structureKind? kind = some (cost, hp)) : 0 < hp := by
  unfold Colony.structureKind? at h
  split at h <;> cases h <;> decide

lemma sturdy_built {kind : String} {x y : Int64} {cost : Cost} {hp : UInt32}
    (h : Colony.structureKind? kind = some (cost, hp)) : Sturdy ⟨kind, x, y, hp, hp⟩ where
  kind := ⟨cost, h⟩
  standing := structureKind?_pos h
  hp := UInt32.le_refl hp

lemma Sturdy.shaken {s : Colony.Structure} (h : Sturdy s) (hstanding : 0 < s.shaken.hp) :
    Sturdy s.shaken where
  kind := h.kind
  standing := hstanding
  hp := by
    have hp := UInt32.le_iff_toNat_le.mp h.hp
    rw [UInt32.le_iff_toNat_le, Colony.Structure.shaken, toNat_reduce]
    exact (Nat.sub_le _ _).trans hp

/-! ### Resources -/

lemma salvage_names {kind name : String} (h : name ∈ (salvage kind).map Prod.fst) :
    name ∈ ["wood", "stone", "food", "metal"] := by
  unfold salvage Colony.structureKind? at h
  split at h
  · next hkind =>
    split at hkind <;> cases hkind <;> revert name <;> decide
  · cases h

/-! ### Commands -/

lemma settlement_initial : Settlement .initial where
  colonists := by
    intro c hc
    change c ∈ [_, _] at hc
    rcases List.mem_pair.mp hc with rfl | rfl
    · exact ⟨⟨by decide, by decide, by decide, by decide⟩, by decide, by decide, by decide⟩
    · exact ⟨⟨by decide, by decide, by decide, by decide⟩, by decide, by decide, by decide⟩
  selected := ⟨0, rfl, by decide⟩
  structures := nofun
  cells := layout_nil
  resources name := by
    have hempty : (Table.empty : Stock).contains name = false := rfl
    simp only [Colony.State.initial, Table.ofList, List.foldl_cons, List.foldl_nil, contains_insert,
      hempty, List.mem_cons, List.not_mem_nil]
    tauto

lemma Settlement.set (h : Settlement state) {index : Nat} {colonist : Colony.Colonist}
    (hcolonist : Hale colonist) : Settlement (Colony.withColonist state index colonist) := by
  refine { h with colonists := fun c hc => ?_, selected := ?_ }
  · rcases List.mem_or_eq_of_mem_set hc with hold | rfl
    · exact h.colonists c hold
    · exact hcolonist
  · obtain ⟨chosen, hchosen, hlt⟩ := h.selected
    refine ⟨chosen, hchosen, ?_⟩
    simpa [Colony.withColonist] using hlt

lemma Settlement.insert (h : Settlement state) {resource : String} {amount : UInt64}
    (hknown : resource ∈ ["wood", "stone", "food", "metal"]) :
    Settlement { state with resources := state.resources.insert resource amount } := by
  refine { h with resources := fun name => ?_ }
  rw [contains_insert, h.resources]
  constructor
  · rintro (rfl | hname)
    · exact hknown
    · exact hname
  · exact .inr

lemma Settlement.change (h : Settlement state) (hchange : ColonyChange state command after) :
    Settlement after := by
  cases hchange with
  | setResource resource amount hknown => exact h.insert hknown
  | increase resource amount hknown => exact h.insert hknown
  | decrease resource amount hknown => exact h.insert hknown
  | moveColonist x y index colonist hcell hselected hcolonist hstanding =>
    exact h.set ((h.colonists colonist (List.mem_of_getElem? hcolonist)).moved hcell)
  | heal index colonist hselected hcolonist hstanding =>
    exact h.set ((h.colonists colonist (List.mem_of_getElem? hcolonist)).healed hstanding)
  | revive front back colonist hcolonists hfront hdowned =>
    have hhale := h.colonists
    rw [hcolonists] at hhale
    obtain ⟨hhead, hrest⟩ := List.forall_mem_append.mp hhale
    obtain ⟨hcolonist, htail⟩ := List.forall_mem_cons.mp hrest
    refine { h with colonists := ?_, selected := ?_ }
    · exact List.forall_mem_append.mpr
        ⟨hhead, List.forall_mem_cons.mpr ⟨hcolonist.revived, htail⟩⟩
    · obtain ⟨chosen, hchosen, hlt⟩ := h.selected
      refine ⟨chosen, hchosen, ?_⟩
      simpa [hcolonists] using hlt
  | build kind x y cost hp resources hkind hcell hfree hpaid =>
    refine { h with structures := ?_, cells := ?_, resources := fun name => ?_ }
    · exact List.forall_mem_append.mpr
        ⟨h.structures, List.forall_mem_singleton.mpr (sturdy_built hkind)⟩
    · rw [List.map_append]
      exact h.cells.add hcell hfree
    · rw [hpaid.names]
      exact h.resources name
  | demolish x y front back found hstructures hfront hfound =>
    have hkept : (front ++ back).Sublist state.structures := by
      rw [hstructures]
      exact (List.Sublist.refl front).append (List.sublist_cons_self found back)
    refine { h with structures := ?_, cells := ?_, resources := fun name => ?_ }
    · exact fun s hs => h.structures s (hkept.subset hs)
    · exact h.cells.sublist (hkept.map structureCell)
    · rw [contains_addAll, h.resources]
      constructor
      · rintro (hname | hname)
        · exact salvage_names hname
        · exact hname
      · exact .inr
  | flood kind hkind => exact h.insert (by decide)
  | earthquake kind hkind =>
    refine { h with colonists := ?_, selected := ?_, structures := ?_, cells := ?_ }
    · exact List.forall_mem_map.mpr fun c hc => (h.colonists c hc).shaken
    · obtain ⟨chosen, hchosen, hlt⟩ := h.selected
      refine ⟨chosen, hchosen, ?_⟩
      rwa [List.length_map]
    · intro s hs
      obtain ⟨hmem, hstanding⟩ := List.mem_filter.mp hs
      obtain ⟨old, hold, rfl⟩ := List.mem_map.mp hmem
      exact (h.structures old hold).shaken (by simpa using hstanding)
    · have hcells : (state.structures.map Colony.Structure.shaken).map structureCell =
          state.structures.map structureCell := by
        rw [List.map_map]
        rfl
      exact h.cells.sublist (hcells ▸ List.filter_sublist.map structureCell)
  | auto | pause | resume | setWeather | setTemperature => exact { h with }

/-! ### Earthquakes -/

/-- The damage of an earthquake. Structures that would have nothing left are gone. -/
structure Quake (before after : Colony.State) : Prop where
  structures : List.Forall₂ (fun s t => t = { s with hp := t.hp } ∧ t.hp.toNat = s.hp.toNat - 50)
    (before.structures.filter fun s => 0 < s.hp.toNat - 50) after.structures
  colonists : List.Forall₂ (fun c d =>
      if c.downed then d = c
      else d = { c with hp := d.hp, downed := d.downed } ∧ d.hp.toNat = c.hp.toNat - 3 ∧
        (d.downed = true ↔ d.hp.toNat = 0))
    before.colonists after.colonists
  elsewhere : after = { before with structures := after.structures, colonists := after.colonists }

lemma toNat_shaken (s : Colony.Structure) : s.shaken.hp.toNat = s.hp.toNat - 50 :=
  toNat_reduce s.hp Colony.earthquakeDamage

lemma quake_earthquake (state : Colony.State) :
    Quake state { state with
      structures := (state.structures.map Colony.Structure.shaken).filter fun s => 0 < s.hp
      colonists := state.colonists.map Colony.Colonist.shaken } where
  structures := by
    have hfallen : ∀ s : Colony.Structure,
        (0 < s.shaken.hp) = (0 < s.hp.toNat - 50) := by
      intro s
      rw [UInt32.lt_iff_toNat_lt, toNat_shaken]
      rfl
    simp only [List.filter_map, Function.comp_def, hfallen, List.forall₂_map_right_iff]
    exact List.forall₂_same.mpr fun s _ => ⟨rfl, toNat_shaken s⟩
  colonists := by
    simp only [List.forall₂_map_right_iff]
    refine List.forall₂_same.mpr fun c _ => ?_
    unfold Colony.Colonist.shaken
    split
    · rfl
    · refine ⟨rfl, toNat_reduce c.hp Colony.earthquakeInjury, ?_⟩
      rw [beq_iff_eq, eq_zero_iff]
  elsewhere := rfl

/-- A colony stays sound, whatever is tried in it and whatever fails: its colonists are on the map,
with a health in its range, and downed if and only if they have none; someone is selected; its
structures stand on different cells of the map, are of known kinds and have not fallen; and it has its
four resources. An earthquake is never refused. It takes 50 from every structure and 3 from every
standing colonist, or what is there, and those who have nothing left are gone or downed. -/
theorem colony_stays_sound (commands : List Colony.Command) :
    Settlement (reached Colony.perform .initial commands) ∧
    ∀ event ∈ history Colony.perform .initial commands,
      event.command = .disaster "earthquake" ∨ event.command = .disaster "地震" →
        (∃ effect, event.outcome = .ok effect) ∧ Quake event.before event.after := by
  constructor
  · refine history_induction colony_atomic (motive := fun _ state => Settlement state)
      settlement_initial ?_ ?_ commands
    · intro events state command effect after hsettlement hperform
      exact hsettlement.change (colony_change hperform)
    · intro events state command e hsettlement
      exact hsettlement
  · intro event hevent hquake
    obtain ⟨earlier, later, -, hhappen⟩ := mem_history hevent
    rcases hquake with hcommand | hcommand
    · rw [hhappen, hcommand]
      exact ⟨⟨_, rfl⟩, quake_earthquake _⟩
    · rw [hhappen, hcommand]
      exact ⟨⟨_, rfl⟩, quake_earthquake _⟩

/-- Two earthquakes. A bed does not outlast the first one, and nobody can stand outside of the map. -/
def shocks : List Colony.Command :=
  [.build "bed" 1 1, .build "house" 4 4, .revive, .disaster "earthquake", .moveColonist 20 3, .heal,
    .disaster "地震"]

theorem sound_after_shocks :
    Settlement (reached Colony.perform .initial shocks) ∧
    (∃ event ∈ history Colony.perform .initial shocks, event.command = .disaster "earthquake" ∧
      (∃ effect, event.outcome = .ok effect) ∧ Quake event.before event.after) ∧
    (reached Colony.perform .initial shocks).structures = [⟨"house", 4, 4, 100, 200⟩] ∧
    (reached Colony.perform .initial shocks).colonists =
      [⟨"Ada", 10, 10, 5, 10, false⟩, ⟨"Bo", 12, 10, 0, 10, true⟩] := by
  obtain ⟨hsettlement, hquakes⟩ := colony_stays_sound shocks
  refine ⟨hsettlement, ?_, by decide +kernel, by decide +kernel⟩
  have hfirst : ∃ event ∈ history Colony.perform .initial shocks,
      event.command = .disaster "earthquake" :=
    ⟨_, .tail _ (.tail _ (.tail _ (.head _))), happen_command _ _⟩
  obtain ⟨event, hevent, hcommand⟩ := hfirst
  exact ⟨event, hevent, hcommand, hquakes event hevent (.inl hcommand)⟩

end Microworlds.Proofs

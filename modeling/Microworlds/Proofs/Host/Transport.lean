import Microworlds.Json.Reader
import Microworlds.Proofs.Codec.States
import Microworlds.Proofs.Decimal.Magnitude

/-!
# Values sent as texts

A host and a session exchange JSON texts. What a text layer makes of a value is a `Transport`: what is
nested too deeply is refused, and everything else arrives with `null` for every number that JSON does
not have. So a request arrives as it was sent if all its numbers are finite and its tree is not too high.
A tree that is too high is refused, and so is a body with a number that is not finite.
-/

namespace Microworlds.Proofs

mutual

/-- The value with `null` for every number that is not finite. -/
def nulled : Json → Json
  | .float x => if x.isFinite then .float x else .null
  | .arr items => .arr (nulledItems items)
  | .obj members => .obj (nulledMembers members)
  | plain => plain

/-- The items with `null` for every number that is not finite. -/
def nulledItems : List Json → List Json
  | [] => []
  | item :: more => nulled item :: nulledItems more

/-- The members with `null` for every number that is not finite. -/
def nulledMembers : List (String × Json) → List (String × Json)
  | [] => []
  | (key, value) :: more => (key, nulled value) :: nulledMembers more

end

/-- A way to send requests as texts: written on one side and read on the other. -/
structure Transport where
  carry : Json → Option Json
  arrives : ∀ request : Request, (encode request).levels ≤ Json.maxLevels →
    carry (encode request) = some (nulled (encode request))
  refuses : ∀ request : Request, Json.maxLevels < (encode request).levels →
    carry (encode request) = none

/-- The transport that does nothing else. -/
def Transport.plain : Transport where
  carry value := if value.levels ≤ Json.maxLevels then some (nulled value) else none
  arrives _ h := if_pos h
  refuses _ h := if_neg (Nat.not_le_of_lt h)

/-- What a host gets for a request that it sends as a text. Nothing comes out if a count leaves its
range. -/
def Transport.call (t : Transport) (request : Request) : Option (Except RequestError Response) :=
  Request.answerValue (t.carry (encode request))

/-! ### What arrives as it was sent -/

lemma nulledItems_eq {items : List Json} (h : ∀ item ∈ items, nulled item = item) :
    nulledItems items = items := by
  induction items with
  | nil => rfl
  | cons item more ih =>
    rw [nulledItems, h item List.mem_cons_self,
      ih fun other hm => h other (List.mem_cons_of_mem item hm)]

lemma nulledMembers_eq {members : List (String × Json)}
    (h : ∀ member ∈ members, nulled member.2 = member.2) : nulledMembers members = members := by
  induction members with
  | nil => rfl
  | cons member more ih =>
    rw [nulledMembers, h member List.mem_cons_self,
      ih fun other hm => h other (List.mem_cons_of_mem member hm)]

lemma nulled_of_fits {n : Nat} {value : Json} (h : Fits IsFinite n value) : nulled value = value := by
  induction h with
  | float x h => exact if_pos h
  | arr items h ih => rw [nulled, nulledItems_eq ih]
  | obj members h ih => rw [nulled, nulledMembers_eq ih]
  | _ => rfl

lemma fits_request {ok : Float → Prop} {n : Nat} {request : Request}
    (hstate : ∀ state, request.state = some state → Numbers ok state ∧ treeHeight state ≤ n + 4)
    (hconfig : ∀ config, request.config = some config → ok config.replaySpeed) :
    Fits ok (n + 6) (encode request) := by
  change Fits ok (n + 6) (.obj _)
  have hfits : ∀ state, request.state = some state → Fits ok (n + 5) (encode state) :=
    fun state h => fits_state (hstate state h).1 (hstate state h).2
  simpa using ⟨hfits, hconfig⟩

lemma call_of_fits (t : Transport) {request : Request}
    (h : Fits IsFinite Json.maxLevels (encode request)) : t.call request = request.answer := by
  rw [Transport.call, t.arrives _ h.levels_le, nulled_of_fits h, Request.answerValue, Option.bind_some,
    decode_encode]

/-! ### What does not arrive -/

lemma height_lt_levels (state : State) : treeHeight state < (encode state).levels := by
  obtain ⟨members, hbody, -, hstate⟩ := encode_state state
  rw [hstate]
  cases state with
  | dataStructure state =>
    have htree : ("tree", encode state.tree) ∈ members := by
      cases hbody
      simp
    rw [treeHeight, ← levels_toJson]
    exact levels_lt_of_mem (List.mem_cons_of_mem _ htree)
  | _ => exact Nat.succ_pos _

lemma call_of_height (t : Transport) {request : Request} {state : State}
    (hstate : request.state = some state) (h : 125 < treeHeight state) :
    t.call request = some (.error .malformed) := by
  have hmem : ("state", encode state) ∈ [("scenario", encode request.scenario),
      ("code", encode request.code), ("state", encode request.state),
      ("order", encode request.order), ("config", encode request.config)] := by
    rw [hstate]
    simp [encode]
  have hlevels : Json.maxLevels < (encode request).levels := by
    have hbelow := levels_lt_of_mem hmem
    have hheight := height_lt_levels state
    change 127 < (Json.obj _).levels
    omega
  rw [Transport.call, t.refuses _ hlevels, Request.answerValue, Option.bind_none]

lemma finite_of_decode {x y : Float} (h : decode? (nulled (encode x)) = some y) : IsFinite x := by
  by_contra hx
  have hnull : nulled (encode x) = .null := if_neg hx
  rw [hnull] at h
  cases h

lemma finite_of_decode_body {body other : Physics.Body}
    (h : decode? (nulled (encode body)) = some other) : BodyNumbers IsFinite body := by
  have hfields : decode? (α := Physics.Body) (nulled (encode body)) = _ :=
    decode_record rfl (by decide)
  rw [hfields] at h
  simp only [nulledMembers, List.map_cons, List.map_nil, field?_some, Option.bind_eq_bind,
    Option.bind_eq_some_iff] at h
  obtain ⟨_, -, _, hx, _, hy, _, hvx, _, hvy, _, hmass, _, hradius, -⟩ := h
  exact ⟨finite_of_decode hx, finite_of_decode hy, finite_of_decode hvx, finite_of_decode hvy,
    finite_of_decode hmass, finite_of_decode hradius⟩

lemma decoded_of_mem {α : Type} [Coded α] {items : List α} {others : List α}
    (h : decode? (nulled (encode items)) = some others) {a : α} (ha : a ∈ items) :
    ∃ b : α, decode? (nulled (encode a)) = some b := by
  change (nulledItems (items.map encode)).mapM decode? = some others at h
  induction items generalizing others with
  | nil => cases ha
  | cons first more ih =>
    simp only [List.map_cons, nulledItems, List.mapM_cons, Option.bind_eq_bind,
      Option.bind_eq_some_iff] at h
    obtain ⟨b, hb, rest, hrest, -⟩ := h
    obtain rfl | ha := List.mem_cons.mp ha
    · exact ⟨b, hb⟩
    · exact ih ha hrest

lemma finite_of_decode_physics {state other : Physics.State}
    (h : decode? (nulled (encode state)) = some other) : PhysicsNumbers IsFinite state := by
  have hfields : decode? (α := Physics.State) (nulled (encode state)) = _ :=
    decode_record rfl (by decide)
  rw [hfields] at h
  simp only [nulledMembers, List.map_cons, List.map_nil, field?_some, Option.bind_eq_bind,
    Option.bind_eq_some_iff] at h
  obtain ⟨_, hgravity, _, hbodies, -⟩ := h
  refine ⟨finite_of_decode hgravity, fun body hbody => ?_⟩
  obtain ⟨other, hother⟩ := decoded_of_mem hbodies hbody
  exact finite_of_decode_body hother

lemma finite_of_decode_state {state : Physics.State} {other : State}
    (h : decode? (nulled (encode (State.physics state))) = some other) :
    PhysicsNumbers IsFinite state := by
  have htag : (nulled (encode (State.physics state))).tagged? "scenario" =
      some (.str "physics", nulled (encode state)) :=
    tagged?_obj (by simp [nulledMembers])
  change ((nulled (encode (State.physics state))).whole?.bind fun value =>
    (value.tagged? "scenario").bind fun tagged => (decode? tagged.1).bind fun name =>
      (Scenario.named? name).bind fun scenario => State.ofBody? tagged.2 scenario) = _ at h
  rw [Option.bind_eq_some_iff] at h
  obtain ⟨value, hwhole, h⟩ := h
  rw [Json.whole?, Option.ite_none_right_eq_some] at hwhole
  obtain ⟨-, hvalue⟩ := hwhole
  cases hvalue
  rw [htag] at h
  change (decode? (nulled (encode state))).map State.physics = some other at h
  obtain ⟨read, hread, -⟩ := Option.map_eq_some_iff.mp h
  exact finite_of_decode_physics hread

lemma finite_of_decode_config {config other : Config}
    (h : decode? (nulled (encode config)) = some other) : IsFinite config.replaySpeed := by
  have hfields : decode? (α := Config) (nulled (encode config)) = _ :=
    decode_record rfl (by decide)
  rw [hfields] at h
  simp only [nulledMembers, List.map_cons, List.map_nil, fieldOr?_some, Option.bind_eq_bind,
    Option.bind_eq_some_iff] at h
  obtain ⟨_, -, _, -, _, hspeed, -⟩ := h
  exact finite_of_decode hspeed

lemma finite_of_decode_request {request received : Request}
    (h : decode? (nulled (encode request)) = some received) :
    (∀ state, request.state = some (.physics state) → PhysicsNumbers IsFinite state) ∧
      ∀ config, request.config = some config → IsFinite config.replaySpeed := by
  have hfields : decode? (α := Request) (nulled (encode request)) = _ :=
    decode_record rfl (by decide)
  rw [hfields] at h
  simp only [nulledMembers, List.map_cons, List.map_nil, field?_some, fieldOr?_some,
    optionalField?_some, Option.bind_eq_bind, Option.bind_eq_some_iff] at h
  obtain ⟨_, -, _, -, sent, hsent, _, -, settings, hsettings, -⟩ := h
  constructor
  · intro state hstate
    rw [hstate] at hsent
    change decode? (α := Option State) (nulled (encode (State.physics state))) = some sent at hsent
    rw [decode_some (by nofun)] at hsent
    obtain ⟨other, hother, -⟩ := Option.map_eq_some_iff.mp hsent
    exact finite_of_decode_state hother
  · intro config hconfig
    rw [hconfig] at hsettings
    change decode? (α := Option Config) (nulled (encode config)) = some settings at hsettings
    rw [decode_some (by nofun)] at hsettings
    obtain ⟨other, hother, -⟩ := Option.map_eq_some_iff.mp hsettings
    exact finite_of_decode_config hother

lemma call_of_unread (t : Transport) {request : Request}
    (h : ∀ received : Request, decode? (nulled (encode request)) ≠ some received) :
    t.call request = some (.error .malformed) := by
  rw [Transport.call, Request.answerValue]
  by_cases hlevels : (encode request).levels ≤ Json.maxLevels
  · rw [t.arrives _ hlevels, Option.bind_some]
    cases hread : decode? (α := Request) (nulled (encode request)) with
    | none => rfl
    | some received => exact absurd hread (h received)
  · rw [t.refuses _ (Nat.lt_of_not_le hlevels), Option.bind_none]

lemma call_of_not_finite (t : Transport) {request : Request} {state : Physics.State}
    (hstate : request.state = some (.physics state)) (h : ¬ PhysicsNumbers IsFinite state) :
    t.call request = some (.error .malformed) :=
  call_of_unread t fun _ hread => h ((finite_of_decode_request hread).1 state hstate)

lemma call_of_not_finite_speed (t : Transport) {request : Request} {config : Config}
    (hconfig : request.config = some config) (h : ¬ IsFinite config.replaySpeed) :
    t.call request = some (.error .malformed) :=
  call_of_unread t fun _ hread => h ((finite_of_decode_request hread).2 config hconfig)

end Microworlds.Proofs

import Microworlds.State
import Microworlds.Proofs.Handler
import Microworlds.Proofs.Careful.Parser
import Microworlds.Proofs.Careful.Sorting
import Microworlds.Proofs.Colony.Change
import Microworlds.Proofs.Hash.Remainder

/-!
# Commands that are carried out with care

Each command that indexes, counts or divides, with the operations of a machine in place of those that
cannot fail. The others have nothing to be watched: they compare and copy, add and subtract numbers
that stop at the ends of their ranges, and work with floating point.
-/

namespace Microworlds.Proofs

variable {ε δ σ α : Type}

def Halt.map (f : ε → δ) : Halt ε → Halt δ
  | .fault reason => .fault reason
  | .stop e => .stop (f e)

/-- A handler in which there is nothing to be watched. -/
def plainly (m : Handler ε σ α) : Handler (Halt ε) σ α := m.adaptExcept .stop

/-- How many can be counted with a number of 32 bits with a sign. -/
def greatestCount : Nat := 2147483647

namespace Careful

def sorted (method : SortMethod) (values : List Int64) : Careful ε Work :=
  match method with
  | .bubble => bubbleSort values
  | .selection => selectionSort values

def sort (name : String) (method : SortMethod) : Handler (Halt Refusal) Algorithm.State Effect := do
  let values ← Handler.check .stop (Algorithm.array (← get) name)
  Handler.check .stop (Algorithm.withinLimit values)
  let work ← (sorted method values : Careful Refusal Work)
  modify fun state => { state with arrays := state.arrays.insert name work.values }
  let text := showList work.values
  let way := method.name
  let compared := Algorithm.comparisons work.steps
  let swapped := Algorithm.swaps work.steps
  return ⟨s!"sorted {name}: {text} ({way} sort, {compared} comparisons, {swapped} swaps)", work.steps⟩

def heapInsert (value : Int64) : Handler (Halt Refusal) DataStructure.State Effect := do
  let work ← (heapPush (← get).heap value : Careful Refusal Work)
  modify fun state => { state with heap := work.values }
  let text := showList work.values
  return ⟨s!"heap insert: {value} (heap: {text})", work.steps⟩

/-- The width of a range as a number of 64 bits. -/
def span (range : Math.Range) : Except Refusal Int64 :=
  let min := range.min
  let max := range.max
  if max ≤ min then .error (.invalid s!"range start must be below its end: {min} to {max}")
  else
    match (difference? max min).filter fun width => width.toInt ≤ Math.maxSpan with
    | some width => .ok width
    | none => .error (.invalid s!"range too wide: {min} to {max} (at most {Math.maxSpan} units)")

def setRange (min max : Int64) : Handler (Halt Failure) Math.State Effect := do
  let range : Math.Range := ⟨min, max⟩
  let _ ← Handler.check (.stop ∘ .precondition) (span range)
  modify fun state => { state with range }
  return .plain s!"range set to [{min}, {max}]"

def plot (expression : String) : Handler (Halt Failure) Math.State Effect := do
  let formula ← Handler.check (Halt.map .evaluation) (parse expression)
  let range := (← get).range
  let width ← Handler.check (.stop ∘ .precondition) (span range)
  let points := Math.sample formula range width.toInt.toNat
  let min := range.min
  let max := range.max
  Handler.stopIf points.isEmpty
    (.stop (.precondition (.invalid s!"y = {expression} has no finite values in [{min}, {max}]")))
  modify fun state => { state with plots := state.plots ++ [⟨expression, points⟩] }
  let count := points.length
  return .plain s!"plotted y = {expression} over [{min}, {max}] ({count} points)"

def calculate (expression : String) : Handler (Halt Failure) Math.State Effect := do
  let formula ← Handler.check (Halt.map .evaluation) (parse expression)
  let result ← Handler.check (.stop ∘ .evaluation) (formula.eval none)
  modify fun state => { state with lastResult := some result }
  return .plain (expression ++ " = " ++ Decimal.display result)

/-- The number within two bounds that is nearest to a number. -/
def clamp (x low high : Int64) : Int64 := if x < low then low else if high < x then high else x

/-- The next cell in a direction, or the same at the border. -/
def step (cell : Game.Position) (direction : Direction) : Careful ε Game.Position := do
  let last ← difference Game.gridSize 1
  return ⟨clamp (saturated cell.x direction.columns) 0 last,
    clamp (saturated cell.y direction.rows) 0 last⟩

def collect (cell : Game.Position) (effect : Effect) : Handler (Halt Refusal) Game.State Effect := do
  let state ← get
  match state.coins.idxOf? cell with
  | none => return effect
  | some index =>
    let (_, coins) ← (remove state.coins index : Careful Refusal (Game.Position × List Game.Position))
    let score := Counter.add state.score Game.coinValue
    set { state with coins, score }
    return ⟨effect.description ++ s!", collected coin (score {score})",
      effect.steps ++ [.collect cell.x cell.y score]⟩

def createPlayer (x y : Int64) : Handler (Halt Refusal) Game.State Effect := do
  let cell ← Handler.check .stop (Game.onGrid x y)
  Handler.stopIf ((← get).player.isSome) (.stop (.duplicate "entity" "player"))
  modify fun state => { state with player := some cell }
  collect cell (.plain s!"player created at ({x}, {y})")

def move (direction : Direction) : Handler (Halt Refusal) Game.State Effect := do
  let here ← Handler.required (.stop (.missing "entity" "player")) (← get).player
  let cell ← (step here direction : Careful Refusal Game.Position)
  modify fun state => { state with player := some cell }
  let way := direction.name
  let x := cell.x
  let y := cell.y
  let description :=
    if cell = here then s!"player blocked moving {way} at ({x}, {y})"
    else s!"player moved {way} to ({x}, {y})"
  collect cell ⟨description, [.move x y]⟩

def hashReturn (modulus : Int64) : Handler (Halt Refusal) Hash.State Effect := do
  let sum ← Handler.check .stop (Hash.initializedSum (← get))
  Handler.stopIf (modulus ≤ 0) (.stop (.invalid s!"modulus must be positive: {modulus}"))
  let result ← (remainder sum modulus.toUInt64 : Careful Refusal UInt64)
  modify fun state => { state with result := some result }
  return .plain s!"return {sum} % {modulus} = {result}"

def hashOf (text : String) : Handler (Halt Refusal) Hash.State Effect := do
  let modulus := Hash.callModulus (← get)
  let (sum, steps) := Hash.accumulate text 0
  let result ← (remainder sum modulus : Careful Refusal UInt64)
  modify fun state => { state with input := text, sum := some sum, result := some result }
  return ⟨"hash(\"" ++ text ++ s!"\") = {sum} % {modulus} = {result}", steps⟩

/-- What comes back of a cost: half of every amount above one, rounded up. -/
def refund : Cost → Careful ε Cost
  | [] => .ok []
  | (resource, paid) :: more =>
    if 1 < paid then do
      let back ← quotient (← sum paid 1) 2
      return (resource, back) :: (← refund more)
    else refund more

def salvaged (kind : String) : Careful ε Cost :=
  match Colony.structureKind? kind with
  | some (cost, _) => refund cost
  | none => .ok []

def demolish (x y : Int64) : Handler (Halt Refusal) Colony.State Effect := do
  let structures := (← get).structures
  let index ← Handler.required (.stop (.missing "structure" s!"({x},{y})"))
    (structures.findIdx? fun s => s.x == x && s.y == y)
  let (found, others) ←
    (remove structures index : Careful Refusal (Colony.Structure × List Colony.Structure))
  modify fun state => { state with structures := others }
  let back ← (salvaged found.kind : Careful Refusal Cost)
  modify fun state => { state with resources := Stock.addAll state.resources back }
  let listed := ", ".intercalate (back.map fun (resource, amount) => s!"{resource} {amount}")
  let kind := found.kind
  let tail := if back.isEmpty then "" else ", refunded " ++ listed
  return .plain s!"demolished {kind} at ({x},{y}){tail}"

def flood : Handler (Halt Refusal) Colony.State Effect := do
  let food ← (quotient (Stock.amount (← get).resources "food") 2 : Careful Refusal UInt64)
  modify fun state => { state with resources := state.resources.insert "food" food }
  return .plain s!"flood struck: food {food}"

/-- The colonists after an earthquake, and how many are downed in addition to those counted before. -/
def shake : Nat → List Colony.Colonist → Careful ε (List Colony.Colonist × Nat)
  | downed, [] => .ok ([], downed)
  | downed, colonist :: more =>
    if colonist.downed then do
      let (others, downed) ← shake downed more
      return (colonist :: others, downed)
    else do
      let hp := Counter.reduce colonist.hp Colony.earthquakeInjury
      let counted ← if hp = 0 then increase greatestCount downed else .ok downed
      let (others, downed) ← shake counted more
      return ({ colonist with hp, downed := hp == 0 } :: others, downed)

def earthquake : Handler (Halt Refusal) Colony.State Effect := do
  let before := (← get).structures.length
  modify fun state =>
    { state with
      structures := (state.structures.map Colony.Structure.shaken).filter fun s => 0 < s.hp }
  let destroyed ← (decrease before (← get).structures.length : Careful Refusal Nat)
  let (colonists, downed) ← (shake 0 (← get).colonists : Careful Refusal _)
  modify fun state => { state with colonists }
  return .plain (s!"earthquake struck: {destroyed} of {before} structures destroyed, " ++
    s!"{downed} colonists downed")

def disaster (kind : String) : Handler (Halt Refusal) Colony.State Effect :=
  match kind with
  | "flood" | "洪水" => flood
  | "earthquake" | "地震" => earthquake
  | _ => throw (.stop (.unknown "disaster" kind))

end Careful

open Careful

/-! ### Handlers with errors of another kind -/

section Adapted

variable {β : Type} (stop : ε → δ)

lemma adapt_bind (m : Handler ε σ α) (f : α → Handler ε σ β) :
    (m >>= f).adaptExcept stop = m.adaptExcept stop >>= fun a => (f a).adaptExcept stop := by
  funext state
  change EStateM.adaptExcept _ (EStateM.bind m f) state =
    EStateM.bind (EStateM.adaptExcept _ m) (fun a => EStateM.adaptExcept _ (f a)) state
  unfold EStateM.adaptExcept EStateM.bind
  simp only
  cases m state <;> rfl

lemma adapt_pure (a : α) : (pure a : Handler ε σ α).adaptExcept stop = pure a := rfl

lemma adapt_get : (get : Handler ε σ σ).adaptExcept stop = get := rfl

lemma adapt_modify (f : σ → σ) : (modify f : Handler ε σ PUnit).adaptExcept stop = modify f := rfl

lemma adapt_stopIf (condition : Bool) (e : ε) :
    (Handler.stopIf condition e : Handler ε σ Unit).adaptExcept stop =
      Handler.stopIf condition (stop e) := by
  cases condition <;> rfl

lemma adapt_required (e : ε) (o : Option α) :
    (Handler.required e o : Handler ε σ α).adaptExcept stop = Handler.required (stop e) o := by
  cases o <;> rfl

lemma adapt_liftM (c : Except ε α) :
    (liftM c : Handler ε σ α).adaptExcept stop = Handler.check stop c := by
  cases c <;> rfl

lemma adapt_check {γ : Type} (first : γ → ε) (c : Except γ α) :
    (Handler.check first c : Handler ε σ α).adaptExcept stop = Handler.check (stop ∘ first) c := by
  cases c <;> rfl

lemma check_guarded (c : Except ε α) :
    (Handler.check (Halt.map stop) (guarded c) : Handler (Halt δ) σ α) =
      Handler.check (.stop ∘ stop) c := by
  cases c <;> rfl

lemma check_map_bind {γ : Type} (c : Except ε α) (f : α → γ) (g : γ → Handler δ σ β) :
    (Handler.check stop (c.map f) >>= g) = Handler.check stop c >>= fun a => g (f a) := by
  cases c <;> rfl

lemma run_modify (f : σ → σ) (g : PUnit → Handler ε σ β) (s : σ) :
    (modify f >>= g) s = g ⟨⟩ (f s) := rfl

lemma liftM_ok_bind (a : α) (f : α → Handler (Halt ε) σ β) :
    (liftM (Except.ok a : Careful ε α) : Handler (Halt ε) σ α) >>= f = f a := rfl

end Adapted

/-! ### Sorting and heaps -/

lemma sorted_eq (method : SortMethod) (values : List Int64) :
    (Careful.sorted method values : Careful ε Work) =
      .ok ⟨(Algorithm.sorted method values).1, (Algorithm.sorted method values).2⟩ := by
  cases method with
  | bubble => exact bubbleSort_eq values
  | selection => exact selectionSort_eq values

lemma sort_eq (name : String) (method : SortMethod) :
    Careful.sort name method = plainly (Algorithm.perform (.sort name method)) := by
  unfold Careful.sort Algorithm.perform plainly
  simp only [sorted_eq, liftM_ok_bind, adapt_bind, adapt_get, adapt_liftM, adapt_modify, adapt_pure]

lemma heapInsert_eq (value : Int64) :
    Careful.heapInsert value = plainly (DataStructure.perform (.heapInsert value)) := by
  unfold Careful.heapInsert DataStructure.perform plainly
  simp only [heapPush_eq, liftM_ok_bind, adapt_bind, adapt_get, adapt_modify, adapt_pure]

/-! ### Ranges of plots -/

lemma int64?_cases (n : Int) :
    (∃ width, Word.int64? n = some width ∧ width.toInt = n) ∨
      Word.int64? n = none ∧ (n < -2 ^ 63 ∨ 2 ^ 63 ≤ n) := by
  have hleast : Word.leastSigned = 2 ^ 63 := rfl
  have hgreatest : Word.greatestSigned = 2 ^ 63 - 1 := rfl
  unfold Word.int64?
  split
  · next h => exact .inl ⟨_, rfl, Int64.toInt_ofInt_of_le h.1 (Int.lt_add_one_of_le h.2)⟩
  · next h => exact .inr ⟨rfl, by omega⟩

lemma span_eq (range : Math.Range) :
    Math.span range = (Careful.span range).map fun width => width.toInt.toNat := by
  unfold Math.span Careful.span difference?
  simp only
  split
  · rfl
  · next horder =>
    have hpos : range.min.toInt < range.max.toInt := by
      rw [← Int64.lt_iff_toInt_lt]
      exact Int64.not_le.1 horder
    obtain ⟨width, hwidth, hvalue⟩ | ⟨hnone, hfar⟩ := int64?_cases (range.max.toInt - range.min.toInt)
    · rw [hwidth, ← hvalue, Option.filter_some]
      by_cases hle : width.toInt ≤ Math.maxSpan
      · simp [hle, Except.map]
      · simp [hle, Except.map]
    · have hspan : Math.maxSpan = 1000 := rfl
      rw [hnone, if_neg (by omega)]
      rfl

lemma setRange_eq (min max : Int64) :
    Careful.setRange min max = plainly (Math.perform (.setRange min max)) := by
  unfold Careful.setRange Math.perform Math.setRange plainly
  simp only [span_eq, adapt_bind, adapt_liftM, adapt_check, adapt_modify, adapt_pure, check_map_bind]

lemma plot_eq (expression : String) :
    Careful.plot expression = plainly (Math.perform (.plot expression)) := by
  unfold Careful.plot Math.perform Math.plot plainly
  simp only [parse_eq, check_guarded, span_eq, adapt_bind, adapt_check, adapt_get, adapt_stopIf,
    adapt_modify, adapt_pure, check_map_bind]

lemma calculate_eq (expression : String) :
    Careful.calculate expression = plainly (Math.perform (.calculate expression)) := by
  unfold Careful.calculate Math.perform Math.calculate plainly
  simp only [parse_eq, check_guarded, adapt_bind, adapt_liftM, adapt_check, adapt_modify, adapt_pure]

/-! ### Steps on the grid -/

lemma stepped_eq (coordinate step : Int64) :
    clamp (saturated coordinate step) 0 7 = Game.stepped coordinate step := by
  have hgrid : Game.gridSize.toInt = 8 := rfl
  have hleast : (0 : Int64).toInt = 0 := rfl
  have hlast : (7 : Int64).toInt = 7 := rfl
  unfold clamp saturated Game.stepped
  simp only [Int64.lt_iff_toInt_lt, hleast, hlast, hgrid]
  obtain ⟨next, hnext, hvalue⟩ | ⟨hnone, hfar⟩ := int64?_cases (coordinate.toInt + step.toInt)
  · rw [hnext, Option.getD_some, hvalue, ← hvalue, Int64.ofInt_toInt]
    split
    · rfl
    · split
      · next h => rw [if_pos (by omega)]; rfl
      · next h => rw [if_neg (by omega)]
  · have hmin : Int64.minValue.toInt = -2 ^ 63 := rfl
    have hmax : Int64.maxValue.toInt = 2 ^ 63 - 1 := rfl
    have hbelow := coordinate.toInt_lt
    have habove := coordinate.le_toInt
    rw [hnone, Option.getD_none]
    by_cases hstep : step.toInt < 0
    · rw [if_pos hstep, if_pos (by omega), if_pos (by omega)]
    · rw [if_neg hstep, if_neg (by omega), if_pos (by omega), if_neg (by omega), if_pos (by omega)]
      rfl

lemma step_eq (cell : Game.Position) (direction : Direction) :
    (Careful.step cell direction : Careful ε Game.Position) = .ok (cell.step direction) := by
  have hlast : (difference Game.gridSize 1 : Careful ε Int64) = .ok 7 := rfl
  unfold Careful.step Game.Position.step
  rw [hlast, ok_bind, stepped_eq, stepped_eq]
  rfl

lemma collect_eq (cell : Game.Position) (effect : Effect) :
    Careful.collect cell effect = plainly (Game.collect cell effect) := by
  unfold Careful.collect Game.collect plainly
  simp only [adapt_bind, adapt_get]
  congr 1
  funext state
  have herase := List.erase_eq_eraseIdx state.coins cell
  cases hindex : state.coins.idxOf? cell with
  | none =>
    have hout : cell ∉ state.coins := List.idxOf?_eq_none_iff.1 hindex
    rw [if_neg (by simpa using hout)]
    rfl
  | some index =>
    obtain ⟨hlt, hcell, -⟩ := List.idxOf?_eq_some_iff.1 hindex
    have hfound : state.coins[index]? = some state.coins[index] := List.getElem?_eq_getElem hlt
    have hin : cell ∈ state.coins := List.mem_of_getElem hcell
    rw [hindex] at herase
    rw [if_pos (by simpa using hin), herase]
    simp only [remove_of_some hfound, liftM_ok_bind]
    rfl

lemma createPlayer_eq (x y : Int64) :
    Careful.createPlayer x y = plainly (Game.perform (.createPlayer x y)) := by
  unfold Careful.createPlayer Game.perform Game.place plainly
  simp only [collect_eq, adapt_bind, adapt_get, adapt_liftM, adapt_stopIf, adapt_modify]
  rfl

lemma move_eq (direction : Direction) :
    Careful.move direction = plainly (Game.perform (.move direction)) := by
  unfold Careful.move Game.perform Game.place plainly
  simp only [step_eq, liftM_ok_bind, collect_eq, adapt_bind, adapt_get, adapt_required, adapt_modify]
  rfl

/-! ### Remainders -/

lemma hashReturn_eq (modulus : Int64) :
    Careful.hashReturn modulus = plainly (Hash.perform (.return modulus)) := by
  unfold Careful.hashReturn Hash.perform plainly
  simp only [adapt_bind, adapt_get, adapt_liftM, adapt_stopIf, adapt_modify, adapt_pure]
  by_cases hmodulus : modulus ≤ 0
  · simp only [hmodulus, decide_true]
    rfl
  · have hne : modulus.toUInt64 ≠ 0 := by
      intro hzero
      have hpos := (toNat_of_pos (Int64.not_le.1 hmodulus)).2
      rw [← (toNat_of_pos (Int64.not_le.1 hmodulus)).1, hzero] at hpos
      exact absurd hpos (by decide)
    simp only [remainder_of_ne hne, liftM_ok_bind]

lemma hashOf_eq (text : String) :
    Careful.hashOf text = plainly (Hash.perform (.hashOf text)) := by
  have hmodulus (state : Hash.State) : Hash.callModulus state ≠ 0 := by
    intro hzero
    have hnat := toNat_callModulus state
    rw [hzero, UInt64.toNat_zero] at hnat
    omega
  unfold Careful.hashOf Hash.perform plainly
  simp only [remainder_of_ne (hmodulus _), liftM_ok_bind, adapt_bind, adapt_get, adapt_modify,
    adapt_pure]

/-! ### Structures and colonists -/

lemma takeDown_eq (x y : Int64) (structures : List Colony.Structure) :
    Colony.takeDown x y structures =
      match structures.findIdx? fun s => s.x == x && s.y == y with
      | none => none
      | some index => structures[index]?.map fun found => (found, structures.eraseIdx index) := by
  induction structures with
  | nil => rfl
  | cons s more ih =>
    rw [Colony.takeDown, List.findIdx?_cons]
    split
    · rfl
    · rw [ih]
      cases more.findIdx? fun s => s.x == x && s.y == y with
      | none => rfl
      | some index => cases hfound : more[index]? <;> simp [hfound]

lemma refund_eq {kind : String} {cost : Cost} {hp : UInt32}
    (h : Colony.structureKind? kind = some (cost, hp)) :
    (Careful.refund cost : Careful ε Cost) = .ok (Colony.refund cost) := by
  unfold Colony.structureKind? at h
  split at h <;> cases h <;> rfl

lemma salvaged_eq (kind : String) : (salvaged kind : Careful ε Cost) = .ok (salvage kind) := by
  unfold salvaged salvage
  cases hkind : Colony.structureKind? kind with
  | none => rfl
  | some found => exact refund_eq hkind

lemma demolish_eq (x y : Int64) :
    Careful.demolish x y = plainly (Colony.perform (.demolish x y)) := by
  unfold Careful.demolish Colony.perform Colony.demolish plainly
  simp only [adapt_bind, adapt_get, adapt_required, adapt_modify, adapt_pure]
  congr 1
  funext state
  rw [takeDown_eq]
  cases hindex : state.structures.findIdx? fun s => s.x == x && s.y == y with
  | none => rfl
  | some index =>
    obtain ⟨hlt, -⟩ := List.findIdx?_eq_some_iff_getElem.1 hindex
    have hfound : state.structures[index]? = some state.structures[index] :=
      List.getElem?_eq_getElem hlt
    simp only [hfound, Option.map_some, Handler.required, pure_bind, remove_of_some hfound,
      liftM_ok_bind, salvaged_eq]
    rfl

lemma flood_eq : Careful.flood = plainly Colony.flood := by
  have htwo : (2 : UInt64) ≠ 0 := by decide
  unfold Careful.flood Colony.flood plainly
  simp only [quotient_of_ne htwo, liftM_ok_bind, adapt_bind, adapt_get, adapt_modify, adapt_pure]

def felled (colonists : List Colony.Colonist) : Nat :=
  colonists.countP fun c => !c.downed && c.shaken.downed

lemma shaken_of_downed {c : Colony.Colonist} (h : c.downed = true) : c.shaken = c := by
  rw [Colony.Colonist.shaken, if_pos h]

lemma shaken_of_standing {c : Colony.Colonist} (h : c.downed = false) :
    c.shaken =
      { c with
        hp := Counter.reduce c.hp Colony.earthquakeInjury
        downed := Counter.reduce c.hp Colony.earthquakeInjury == 0 } := by
  rw [Colony.Colonist.shaken, if_neg (by simp [h])]

lemma felled_cons_of_downed {c : Colony.Colonist} (h : c.downed = true)
    (more : List Colony.Colonist) : felled (c :: more) = felled more := by
  simp [felled, h]

lemma felled_cons_of_standing {c : Colony.Colonist} (h : c.downed = false)
    (more : List Colony.Colonist) :
    felled (c :: more) = felled more + if c.shaken.downed then 1 else 0 := by
  simp [felled, h, List.countP_cons]

/-- The count stops the earthquake as soon as it would leave its range, and is exact otherwise. -/
lemma shake_eq (colonists : List Colony.Colonist) {downed : Nat} (h : downed ≤ greatestCount) :
    (shake downed colonists : Careful ε _) =
      if downed + felled colonists ≤ greatestCount then
        .ok (colonists.map Colony.Colonist.shaken, downed + felled colonists)
      else fail .overflow := by
  induction colonists generalizing downed with
  | nil => exact (if_pos h).symm
  | cons c more ih =>
    rw [shake, List.map_cons]
    cases hdowned : c.downed with
    | true =>
      rw [if_pos rfl, ih h, shaken_of_downed hdowned, felled_cons_of_downed hdowned]
      split <;> rfl
    | false =>
      have hfalls : c.shaken.downed = (Counter.reduce c.hp Colony.earthquakeInjury == 0) := by
        rw [shaken_of_standing hdowned]
      rw [felled_cons_of_standing hdowned, hfalls, shaken_of_standing hdowned]
      simp only [Bool.false_eq_true, if_false, beq_iff_eq]
      by_cases hp : Counter.reduce c.hp Colony.earthquakeInjury = 0
      · simp only [hp, if_true]
        by_cases hroom : downed < greatestCount
        · have hsum : downed + 1 + felled more = downed + (felled more + 1) := by omega
          rw [increase_of_lt hroom, ok_bind, ih hroom, hsum]
          split <;> rfl
        · rw [increase, if_neg hroom, if_neg (by omega)]
          rfl
      · simp only [hp, if_false, ok_bind, Nat.add_zero, ih h]
        split <;> rfl

lemma standing_eq (colonists : List Colony.Colonist) :
    colonists.countP (fun c => !c.downed) =
      felled colonists + (colonists.map Colony.Colonist.shaken).countP (fun c => !c.downed) := by
  induction colonists with
  | nil => rfl
  | cons c more ih =>
    rw [List.map_cons, List.countP_cons, List.countP_cons, ih]
    cases hdowned : c.downed with
    | true =>
      rw [felled_cons_of_downed hdowned, shaken_of_downed hdowned, hdowned]
      rfl
    | false =>
      rw [felled_cons_of_standing hdowned]
      cases c.shaken.downed <;> simp <;> omega

lemma length_shaken_le (structures : List Colony.Structure) :
    ((structures.map Colony.Structure.shaken).filter fun s => 0 < s.hp).length ≤
      structures.length := by
  have hfilter := List.length_filter_le (fun s : Colony.Structure => 0 < s.hp)
    (structures.map Colony.Structure.shaken)
  rwa [List.length_map] at hfilter

lemma earthquake_eq {state : Colony.State} (h : felled state.colonists ≤ greatestCount) :
    Careful.earthquake state = plainly Colony.earthquake state := by
  have hroom : 0 + felled state.colonists ≤ greatestCount := by omega
  have htotal : 0 + felled state.colonists = state.colonists.countP (fun c => !c.downed) -
      (state.colonists.map Colony.Colonist.shaken).countP (fun c => !c.downed) := by
    have hstanding := standing_eq state.colonists
    omega
  have hrun := shake_eq (ε := Refusal) state.colonists (Nat.zero_le greatestCount)
  rw [if_pos hroom, htotal] at hrun
  unfold Careful.earthquake
  simp only [run_get, run_modify, run_liftM, decrease_of_le (length_shaken_le state.structures), hrun]
  rfl

lemma earthquake_overflows {state : Colony.State} (h : greatestCount < felled state.colonists) :
    ∃ next, Careful.earthquake state = .error (.fault .overflow) next := by
  have hrun := shake_eq (ε := Refusal) state.colonists (Nat.zero_le greatestCount)
  rw [if_neg (by omega)] at hrun
  unfold Careful.earthquake
  simp only [run_get, run_modify, run_liftM, decrease_of_le (length_shaken_le state.structures), hrun]
  exact ⟨_, rfl⟩

def earthquakes : List String := ["earthquake", "地震"]

def disasters : List String := ["flood", "洪水"] ++ earthquakes

lemma careful_disaster_other {kind : String} (h : kind ∉ disasters) :
    Careful.disaster kind = throw (.stop (.unknown "disaster" kind)) := by
  unfold Careful.disaster
  split
  · exact absurd (by simp [disasters, earthquakes]) h
  · exact absurd (by simp [disasters, earthquakes]) h
  · exact absurd (by simp [disasters, earthquakes]) h
  · exact absurd (by simp [disasters, earthquakes]) h
  · rfl

lemma perform_disaster_other {kind : String} (h : kind ∉ disasters) :
    Colony.perform (.disaster kind) = throw (.unknown "disaster" kind) := by
  unfold Colony.perform
  simp only
  split
  · exact absurd (by simp [disasters, earthquakes]) h
  · exact absurd (by simp [disasters, earthquakes]) h
  · exact absurd (by simp [disasters, earthquakes]) h
  · exact absurd (by simp [disasters, earthquakes]) h
  · rfl

lemma disaster_eq {kind : String} {state : Colony.State}
    (h : kind ∈ earthquakes → felled state.colonists ≤ greatestCount) :
    Careful.disaster kind state = plainly (Colony.perform (.disaster kind)) state := by
  by_cases hkind : kind ∈ disasters
  · simp only [disasters, earthquakes, List.cons_append, List.nil_append, List.mem_cons,
      List.not_mem_nil, or_false] at hkind
    obtain rfl | rfl | rfl | rfl := hkind
    · exact congrFun flood_eq state
    · exact congrFun flood_eq state
    · exact earthquake_eq (h (by simp [earthquakes]))
    · exact earthquake_eq (h (by simp [earthquakes]))
  · rw [careful_disaster_other hkind, perform_disaster_other hkind]
    rfl

lemma disaster_overflows {kind : String} {state : Colony.State} (hkind : kind ∈ earthquakes)
    (h : greatestCount < felled state.colonists) :
    ∃ next, Careful.disaster kind state = .error (.fault .overflow) next := by
  simp only [earthquakes, List.mem_cons, List.not_mem_nil, or_false] at hkind
  obtain rfl | rfl := hkind
  · exact earthquake_overflows h
  · exact earthquake_overflows h

/-! ### The commands of each scenario -/

namespace Careful

def algorithm : Algorithm.Command → Handler (Halt Refusal) Algorithm.State Effect
  | .sort name method => sort name method
  | command => plainly (Algorithm.perform command)

def dataStructure : DataStructure.Command → Handler (Halt Refusal) DataStructure.State Effect
  | .heapInsert value => heapInsert value
  | command => plainly (DataStructure.perform command)

def math : Math.Command → Handler (Halt Failure) Math.State Effect
  | .setRange min max => setRange min max
  | .plot expression => plot expression
  | .calculate expression => calculate expression
  | command => plainly (Math.perform command)

def game : Game.Command → Handler (Halt Refusal) Game.State Effect
  | .createPlayer x y => createPlayer x y
  | .move direction => move direction
  | command => plainly (Game.perform command)

def hash : Hash.Command → Handler (Halt Refusal) Hash.State Effect
  | .return modulus => hashReturn modulus
  | .hashOf text => hashOf text
  | command => plainly (Hash.perform command)

def colony : Colony.Command → Handler (Halt Refusal) Colony.State Effect
  | .demolish x y => demolish x y
  | .disaster kind => disaster kind
  | command => plainly (Colony.perform command)

end Careful

lemma algorithm_eq (command : Algorithm.Command) :
    Careful.algorithm command = plainly (Algorithm.perform command) := by
  cases command with
  | sort name method => exact sort_eq name method
  | _ => rfl

lemma dataStructure_eq (command : DataStructure.Command) :
    Careful.dataStructure command = plainly (DataStructure.perform command) := by
  cases command with
  | heapInsert value => exact heapInsert_eq value
  | _ => rfl

lemma math_eq (command : Math.Command) :
    Careful.math command = plainly (Math.perform command) := by
  cases command with
  | setRange min max => exact setRange_eq min max
  | plot expression => exact plot_eq expression
  | calculate expression => exact calculate_eq expression
  | _ => rfl

lemma game_eq (command : Game.Command) :
    Careful.game command = plainly (Game.perform command) := by
  cases command with
  | createPlayer x y => exact createPlayer_eq x y
  | move direction => exact move_eq direction
  | _ => rfl

lemma hash_eq (command : Hash.Command) :
    Careful.hash command = plainly (Hash.perform command) := by
  cases command with
  | «return» modulus => exact hashReturn_eq modulus
  | hashOf text => exact hashOf_eq text
  | _ => rfl

/-- A command that downs more colonists than can be counted. -/
def Uncountable (state : Colony.State) : Colony.Command → Prop
  | .disaster kind => kind ∈ earthquakes ∧ greatestCount < felled state.colonists
  | _ => False

lemma colony_eq {command : Colony.Command} {state : Colony.State} (h : ¬ Uncountable state command) :
    Careful.colony command state = plainly (Colony.perform command) state := by
  cases command with
  | demolish x y => exact congrFun (demolish_eq x y) state
  | disaster kind => exact disaster_eq fun hkind => Nat.le_of_not_lt fun hmore => h ⟨hkind, hmore⟩
  | _ => rfl

lemma colony_overflows {command : Colony.Command} {state : Colony.State}
    (h : Uncountable state command) :
    ∃ next, Careful.colony command state = .error (.fault .overflow) next := by
  cases command with
  | disaster kind => exact disaster_overflows h.1 h.2
  | _ => exact h.elim

end Microworlds.Proofs

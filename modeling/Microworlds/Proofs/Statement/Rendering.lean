import Microworlds.Proofs.Statement.Forms

/-!
# Every command has a text

A canonical text for every command of every scenario, and the commands whose fields a text can hold.
Classifying the text of such a command by the rules of its scenario gives back the command.
-/

namespace Microworlds.Proofs

lemma understood_text {κ : Type} {rules : List (Rule κ)} {places : List (Nat × Nat)}
    (hclear : clearAt rules places = true) (i j : Nat) (hmem : places.elem (i, j) = true)
    {rule : Rule κ} {form : Form κ} (hrule : rules[i]? = some rule) (hform : rule.forms[j]? = some form)
    (values : Pieces.Values form.pieces) (hvalues : ValuesInRange form.pieces values)
    {line : String} {command : κ} (hline : line.toList = filled form.pieces values)
    (hcommand : form.meaning values = command) : Understood rules line.toList command := by
  rw [hline, ← hcommand]
  exact understood_of_clear i j hrule hform (clear_of_mem hclear hmem hrule hform) values hvalues

/-! ### Texts of commands -/

def bracketed (x y : String) : String :=
  "(" ++ x ++ "," ++ y ++ ")"

@[simp] lemma toList_bracketed (x y : String) :
    (bracketed x y).toList = '(' :: (x.toList ++ ',' :: (y.toList ++ [')'])) := by
  simp [bracketed]

/-- The text of a statement of a program. -/
def programmingText : Programming.Command → String
  | .print text => "print(" ++ quote text ++ ")"
  | .printConcat text var => "print(" ++ quote text ++ "+" ++ var ++ ")"
  | .printVar var => "print(" ++ var ++ ")"
  | .assignInt name value => name ++ "=" ++ toString value
  | .assignText name value => name ++ "=" ++ quote value
  | .augment name sign amount => name ++ sign.symbol ++ "=" ++ toString amount
  | .condition name comparison bound =>
    "if " ++ name ++ comparison.symbol ++ toString bound ++ ":"

def algorithmText : Algorithm.Command → String
  | .declare name values => "array " ++ name ++ "=[" ++ listed values ++ "]"
  | .sort name method => "sort " ++ name ++ " using " ++ method.name
  | .search name target => "search " ++ name ++ " for " ++ toString target
  | .print text name => "print(" ++ quote text ++ "+" ++ name ++ ")"

/-- The text of a statement about data structures. -/
def dataStructureText : DataStructure.Command → String
  | .push value => "stack.push(" ++ quote value ++ ")"
  | .pop => "stack.pop()"
  | .top => "stack.top()"
  | .printTop text => "print(" ++ quote text ++ "+stack.top())"
  | .enqueue value => "queue.enqueue(" ++ quote value ++ ")"
  | .dequeue => "queue.dequeue()"
  | .treeInsert value => "tree.insert(" ++ toString value ++ ")"
  | .heapInsert value => "heap.insert(" ++ toString value ++ ")"
  | .addNode name => "graph.addNode(" ++ quote name ++ ")"
  | .addEdge source target => "graph.addEdge" ++ bracketed (quote source) (quote target)

def mathText : Math.Command → String
  | .setRange min max => "set range " ++ toString min ++ " to " ++ toString max
  | .plot expression => "plot y=" ++ expression
  | .circle x y radius =>
    "draw circle at" ++ bracketed (Decimal.display x) (Decimal.display y) ++ " radius " ++
      Decimal.display radius
  | .rectangle x y width height =>
    "draw rectangle at" ++ bracketed (Decimal.display x) (Decimal.display y) ++ " width " ++
      Decimal.display width ++ " height " ++ Decimal.display height
  | .point x y none => "add point at" ++ bracketed (Decimal.display x) (Decimal.display y)
  | .point x y (some label) =>
    "add point at" ++ bracketed (Decimal.display x) (Decimal.display y) ++ " label " ++ quote label
  | .calculate expression => "calculate " ++ expression

/-- The text of a statement about the box. -/
def physicsText : Physics.Command → String
  | .setGravity g => "set gravity " ++ Decimal.display g
  | .create name x y mass =>
    "create " ++ name ++ " at" ++ bracketed (Decimal.display x) (Decimal.display y) ++ " mass " ++
      Decimal.display mass
  | .applyForce magnitude target => "apply force " ++ Decimal.display magnitude ++ " to " ++ target
  | .start => "start simulation"
  | .stop => "stop simulation"
  | .step frames => "step simulation " ++ toString frames

/-- The text of a statement of the game. -/
def gameText : Game.Command → String
  | .createPlayer x y => "create player at" ++ bracketed (toString x) (toString y)
  | .move direction => "move player " ++ direction.name
  | .spawnCoin x y => "spawn coin at" ++ bracketed (toString x) (toString y)

/-- The text of a line of the hash function. -/
def hashText : Hash.Command → String
  | .define param => "function hash(" ++ param ++ ")"
  | .setInput name value => name ++ "=" ++ quote value
  | .initSum => "sum=0"
  | .loop var source => "for " ++ var ++ " in " ++ source
  | .accumulate var => "sum+=ascii(" ++ var ++ ")"
  | .return modulus => "return sum%" ++ toString modulus
  | .hashOf text => "hash(" ++ quote text ++ ")"

/-- The text of a statement of the strategy game. -/
def strategyText : Strategy.Command → String
  | .define name => "define strategy " ++ quote name
  | .setGoal goal => "set goal " ++ quote goal
  | .build kind x y => "build " ++ kind ++ " at" ++ bracketed (toString x) (toString y)
  | .train kind x y => "train " ++ kind ++ " at" ++ bracketed (toString x) (toString y)
  | .collect resource amount => "collect " ++ resource ++ " " ++ toString amount
  | .execute => "execute strategy"

/-- The text of a statement of the chat. -/
def aiChatText : AiChat.Command → String
  | .setMode mode => "set thinking mode " ++ quote mode
  | .ask prompt => "ask " ++ quote prompt
  | .refine => "refine prompt with context"
  | .analyze => "analyze response quality"

/-- The text of a statement of the colony. -/
def colonyText : Colony.Command → String
  | .setResource resource amount => resource ++ "=" ++ toString amount
  | .adjustResource resource sign amount => resource ++ sign.symbol ++ "=" ++ toString amount
  | .moveColonist x y => "move colonist to" ++ bracketed (toString x) (toString y)
  | .heal => "heal"
  | .revive => "revive"
  | .build kind x y => "build(" ++ quote kind ++ "," ++ toString x ++ "," ++ toString y ++ ")"
  | .demolish x y => "demolish" ++ bracketed (toString x) (toString y)
  | .auto on => "auto " ++ (if on then "on" else "off")
  | .pause => "pause"
  | .resume => "resume"
  | .setWeather weather => "weather=" ++ quote weather
  | .setTemperature degrees => "temperature=" ++ toString degrees
  | .disaster kind => "disaster " ++ kind

/-- The text of a command. Quoted values are escaped, and there is white space only where two words
would run together without it. -/
def canonicalText : Command → String
  | .programming command => programmingText command
  | .algorithm command => algorithmText command
  | .dataStructure command => dataStructureText command
  | .math command => mathText command
  | .physics command => physicsText command
  | .game command => gameText command
  | .hash command => hashText command
  | .strategy command => strategyText command
  | .aiChat command => aiChatText command
  | .colony command => colonyText command

/-! ### Commands that a line can express -/

/-- Whether the fields of a command are in the range of the slots they are written into. -/
def Expressible : Command → Prop
  | .programming (.printConcat _ name) | .programming (.printVar name)
  | .programming (.assignInt name _) | .programming (.assignText name _)
  | .programming (.augment name _ _) | .programming (.condition name _ _) => IsName name
  | .algorithm (.declare name values) => IsName name ∧ values ≠ []
  | .algorithm (.sort name _) | .algorithm (.search name _) | .algorithm (.print _ name) =>
    IsName name
  | .math (.plot expression) | .math (.calculate expression) => IsFormula expression
  | .math (.circle x y radius) => IsDecimal x ∧ IsDecimal y ∧ IsDecimal radius
  | .math (.rectangle x y width height) =>
    IsDecimal x ∧ IsDecimal y ∧ IsDecimal width ∧ IsDecimal height
  | .math (.point x y _) => IsDecimal x ∧ IsDecimal y
  | .physics (.setGravity g) => IsDecimal g
  | .physics (.create name x y mass) => IsName name ∧ IsDecimal x ∧ IsDecimal y ∧ IsDecimal mass
  | .physics (.applyForce magnitude target) => IsDecimal magnitude ∧ IsName target
  | .physics (.step frames) => IsFrames frames
  | .hash (.define name) | .hash (.setInput name _) | .hash (.accumulate name) => IsName name
  | .hash (.loop var source) => IsName var ∧ IsName source
  | .strategy (.build kind _ _) | .strategy (.train kind _ _) => IsName kind
  | .strategy (.collect resource amount) => IsName resource ∧ IsAmount amount
  | .colony (.setResource resource amount) | .colony (.adjustResource resource _ amount) =>
    resource ∈ ["wood", "stone", "food", "metal"] ∧ IsAmount amount
  | .colony (.disaster kind) => IsToken kind
  | _ => True

/-! ### Texts are understood, scenario by scenario -/

lemma programming_clear : clearAt Programming.rules
    [(0, 0), (1, 0), (2, 0), (3, 0), (4, 0), (5, 0), (6, 0)] = true := by
  rfl

lemma programming_understood (command : Programming.Command)
    (h : Expressible (.programming command)) :
    Understood Programming.rules (programmingText command).toList command := by
  cases command with
  | print text =>
    exact understood_text programming_clear 1 0 rfl rfl rfl (text, ())
      ⟨trivial, trivial⟩ (by dsimp only [filled, written, programmingText]; simp) rfl
  | printConcat text var =>
    exact understood_text programming_clear 0 0 rfl rfl rfl (text, var, ())
      ⟨trivial, h, trivial⟩ (by dsimp only [filled, written, programmingText]; simp) rfl
  | printVar var =>
    exact understood_text programming_clear 2 0 rfl rfl rfl (var, ()) ⟨h, trivial⟩
      (by dsimp only [filled, written, programmingText]; simp) rfl
  | assignInt name value =>
    exact understood_text programming_clear 4 0 rfl rfl rfl (name, value, ())
      ⟨h, trivial, trivial⟩ (by dsimp only [filled, written, programmingText]; simp) rfl
  | assignText name value =>
    exact understood_text programming_clear 5 0 rfl rfl rfl (name, value, ())
      ⟨h, trivial, trivial⟩ (by dsimp only [filled, written, programmingText]; simp) rfl
  | augment name sign amount =>
    exact understood_text programming_clear 3 0 rfl rfl rfl (name, sign, amount, ())
      ⟨h, trivial, trivial, trivial⟩ (by dsimp only [filled, written, programmingText]; simp) rfl
  | condition name comparison bound =>
    exact understood_text programming_clear 6 0 rfl rfl rfl (name, comparison, bound, ())
      ⟨h, trivial, trivial, trivial⟩ (by dsimp only [filled, written, programmingText]; simp) rfl

lemma algorithm_clear : clearAt Algorithm.rules
    [(0, 0), (1, 1), (2, 0), (3, 0)] = true := by
  rfl

lemma algorithm_understood (command : Algorithm.Command) (h : Expressible (.algorithm command)) :
    Understood Algorithm.rules (algorithmText command).toList command := by
  cases command with
  | declare name values =>
    exact understood_text algorithm_clear 0 0 rfl rfl rfl (name, values, ())
      ⟨h.1, h.2, trivial⟩ (by dsimp only [filled, written, algorithmText]; simp) rfl
  | sort name method =>
    exact understood_text algorithm_clear 1 1 rfl rfl rfl (name, method, ())
      ⟨h, trivial, trivial⟩ (by dsimp only [filled, written, algorithmText]; simp) rfl
  | search name target =>
    exact understood_text algorithm_clear 2 0 rfl rfl rfl (name, target, ())
      ⟨h, trivial, trivial⟩ (by dsimp only [filled, written, algorithmText]; simp) rfl
  | print text name =>
    exact understood_text algorithm_clear 3 0 rfl rfl rfl (text, name, ())
      ⟨trivial, h, trivial⟩ (by dsimp only [filled, written, algorithmText]; simp) rfl

lemma dataStructure_clear : clearAt DataStructure.rules
    [(0, 0), (1, 0), (2, 0), (3, 0), (4, 0), (5, 0), (6, 0), (7, 0), (8, 0), (9, 0)] = true := by
  rfl

lemma dataStructure_understood (command : DataStructure.Command) :
    Understood DataStructure.rules (dataStructureText command).toList command := by
  cases command with
  | push value =>
    exact understood_text dataStructure_clear 0 0 rfl rfl rfl (value, ())
      ⟨trivial, trivial⟩ (by dsimp only [filled, written, dataStructureText]; simp) rfl
  | pop =>
    exact understood_text dataStructure_clear 1 0 rfl rfl rfl () trivial
      (by dsimp only [filled, dataStructureText]; simp) rfl
  | top =>
    exact understood_text dataStructure_clear 2 0 rfl rfl rfl () trivial
      (by dsimp only [filled, dataStructureText]; simp) rfl
  | printTop text =>
    exact understood_text dataStructure_clear 3 0 rfl rfl rfl (text, ())
      ⟨trivial, trivial⟩ (by dsimp only [filled, written, dataStructureText]; simp) rfl
  | enqueue value =>
    exact understood_text dataStructure_clear 4 0 rfl rfl rfl (value, ())
      ⟨trivial, trivial⟩ (by dsimp only [filled, written, dataStructureText]; simp) rfl
  | dequeue =>
    exact understood_text dataStructure_clear 5 0 rfl rfl rfl () trivial
      (by dsimp only [filled, dataStructureText]; simp) rfl
  | treeInsert value =>
    exact understood_text dataStructure_clear 6 0 rfl rfl rfl (value, ())
      ⟨trivial, trivial⟩ (by dsimp only [filled, written, dataStructureText]; simp) rfl
  | heapInsert value =>
    exact understood_text dataStructure_clear 7 0 rfl rfl rfl (value, ())
      ⟨trivial, trivial⟩ (by dsimp only [filled, written, dataStructureText]; simp) rfl
  | addNode name =>
    exact understood_text dataStructure_clear 8 0 rfl rfl rfl (name, ())
      ⟨trivial, trivial⟩ (by dsimp only [filled, written, dataStructureText]; simp) rfl
  | addEdge source target =>
    exact understood_text dataStructure_clear 9 0 rfl rfl rfl (source, target, ())
      ⟨trivial, trivial, trivial⟩ (by dsimp only [filled, written, dataStructureText]; simp) rfl

lemma math_clear : clearAt Math.rules
    [(0, 0), (1, 0), (3, 0), (4, 0), (5, 0), (5, 1), (6, 0)] = true := by
  rfl

lemma math_understood (command : Math.Command) (h : Expressible (.math command)) :
    Understood Math.rules (mathText command).toList command := by
  cases command with
  | setRange min max =>
    exact understood_text math_clear 0 0 rfl rfl rfl (min, max, ())
      ⟨trivial, trivial, trivial⟩ (by dsimp only [filled, written, mathText]; simp) rfl
  | plot expression =>
    exact understood_text math_clear 1 0 rfl rfl rfl (expression, ()) ⟨h, trivial⟩
      (by dsimp only [filled, written, mathText]; simp) rfl
  | circle x y radius =>
    exact understood_text math_clear 3 0 rfl rfl rfl (x, y, radius, ())
      ⟨h.1, h.2.1, h.2.2, trivial⟩ (by dsimp only [filled, written, mathText]; simp) rfl
  | rectangle x y width height =>
    exact understood_text math_clear 4 0 rfl rfl rfl (x, y, width, height, ())
      ⟨h.1, h.2.1, h.2.2.1, h.2.2.2, trivial⟩ (by dsimp only [filled, written, mathText]; simp) rfl
  | point x y label =>
    cases label with
    | none =>
      exact understood_text math_clear 5 0 rfl rfl rfl (x, y, ()) ⟨h.1, h.2, trivial⟩
        (by dsimp only [filled, written, mathText]; simp) rfl
    | some label =>
      exact understood_text math_clear 5 1 rfl rfl rfl (x, y, label, ())
        ⟨h.1, h.2, trivial, trivial⟩ (by dsimp only [filled, written, mathText]; simp) rfl
  | calculate expression =>
    exact understood_text math_clear 6 0 rfl rfl rfl (expression, ()) ⟨h, trivial⟩
      (by dsimp only [filled, written, mathText]; simp) rfl

lemma physics_clear : clearAt Physics.rules
    [(0, 0), (1, 1), (2, 0), (3, 0), (4, 0), (5, 1)] = true := by
  rfl

lemma physics_understood (command : Physics.Command) (h : Expressible (.physics command)) :
    Understood Physics.rules (physicsText command).toList command := by
  cases command with
  | setGravity g =>
    exact understood_text physics_clear 0 0 rfl rfl rfl (g, ()) ⟨h, trivial⟩
      (by dsimp only [filled, written, physicsText]; simp) rfl
  | create name x y mass =>
    exact understood_text physics_clear 1 1 rfl rfl rfl (name, x, y, mass, ())
      ⟨h.1, h.2.1, h.2.2.1, h.2.2.2, trivial⟩ (by dsimp only [filled, written, physicsText]; simp) rfl
  | applyForce magnitude target =>
    exact understood_text physics_clear 2 0 rfl rfl rfl (magnitude, target, ())
      ⟨h.1, h.2, trivial⟩ (by dsimp only [filled, written, physicsText]; simp) rfl
  | start =>
    exact understood_text physics_clear 3 0 rfl rfl rfl () trivial
      (by dsimp only [filled, physicsText]; simp) rfl
  | stop =>
    exact understood_text physics_clear 4 0 rfl rfl rfl () trivial
      (by dsimp only [filled, physicsText]; simp) rfl
  | step frames =>
    exact understood_text physics_clear 5 1 rfl rfl rfl (frames, ()) ⟨h, trivial⟩
      (by dsimp only [filled, written, physicsText]; simp) rfl

lemma game_clear : clearAt Game.rules
    [(0, 0), (1, 0), (2, 0)] = true := by
  rfl

lemma game_understood (command : Game.Command) :
    Understood Game.rules (gameText command).toList command := by
  cases command with
  | createPlayer x y =>
    exact understood_text game_clear 0 0 rfl rfl rfl (x, y, ())
      ⟨trivial, trivial, trivial⟩ (by dsimp only [filled, written, gameText]; simp) rfl
  | move direction =>
    exact understood_text game_clear 1 0 rfl rfl rfl (direction, ())
      ⟨trivial, trivial⟩ (by dsimp only [filled, written, gameText]; simp) rfl
  | spawnCoin x y =>
    exact understood_text game_clear 2 0 rfl rfl rfl (x, y, ())
      ⟨trivial, trivial, trivial⟩ (by dsimp only [filled, written, gameText]; simp) rfl

lemma hash_clear : clearAt Hash.rules
    [(0, 0), (1, 0), (2, 0), (3, 0), (4, 0), (5, 0), (6, 0)] = true := by
  rfl

lemma hash_understood (command : Hash.Command) (h : Expressible (.hash command)) :
    Understood Hash.rules (hashText command).toList command := by
  cases command with
  | define param =>
    exact understood_text hash_clear 0 0 rfl rfl rfl (param, ()) ⟨h, trivial⟩
      (by dsimp only [filled, written, hashText]; simp) rfl
  | setInput name value =>
    exact understood_text hash_clear 2 0 rfl rfl rfl (name, value, ())
      ⟨h, trivial, trivial⟩ (by dsimp only [filled, written, hashText]; simp) rfl
  | initSum =>
    exact understood_text hash_clear 1 0 rfl rfl rfl () trivial
      (by dsimp only [filled, hashText]; simp) rfl
  | loop var source =>
    exact understood_text hash_clear 3 0 rfl rfl rfl (var, source, ())
      ⟨h.1, h.2, trivial⟩ (by dsimp only [filled, written, hashText]; simp) rfl
  | accumulate var =>
    exact understood_text hash_clear 4 0 rfl rfl rfl (var, ()) ⟨h, trivial⟩
      (by dsimp only [filled, written, hashText]; simp) rfl
  | «return» modulus =>
    exact understood_text hash_clear 5 0 rfl rfl rfl (modulus, ()) ⟨trivial, trivial⟩
      (by dsimp only [filled, written, hashText]; simp) rfl
  | hashOf text =>
    exact understood_text hash_clear 6 0 rfl rfl rfl (text, ()) ⟨trivial, trivial⟩
      (by dsimp only [filled, written, hashText]; simp) rfl

lemma strategy_clear : clearAt Strategy.rules
    [(0, 0), (1, 0), (2, 0), (3, 0), (4, 0), (5, 0)] = true := by
  rfl

lemma strategy_understood (command : Strategy.Command) (h : Expressible (.strategy command)) :
    Understood Strategy.rules (strategyText command).toList command := by
  cases command with
  | define name =>
    exact understood_text strategy_clear 0 0 rfl rfl rfl (name, ())
      ⟨trivial, trivial⟩ (by dsimp only [filled, written, strategyText]; simp) rfl
  | setGoal goal =>
    exact understood_text strategy_clear 1 0 rfl rfl rfl (goal, ())
      ⟨trivial, trivial⟩ (by dsimp only [filled, written, strategyText]; simp) rfl
  | build kind x y =>
    exact understood_text strategy_clear 2 0 rfl rfl rfl (kind, x, y, ())
      ⟨h, trivial, trivial, trivial⟩ (by dsimp only [filled, written, strategyText]; simp) rfl
  | train kind x y =>
    exact understood_text strategy_clear 3 0 rfl rfl rfl (kind, x, y, ())
      ⟨h, trivial, trivial, trivial⟩ (by dsimp only [filled, written, strategyText]; simp) rfl
  | collect resource amount =>
    exact understood_text strategy_clear 4 0 rfl rfl rfl (resource, amount, ())
      ⟨h.1, h.2, trivial⟩ (by dsimp only [filled, written, strategyText]; simp) rfl
  | execute =>
    exact understood_text strategy_clear 5 0 rfl rfl rfl () trivial
      (by dsimp only [filled, strategyText]; simp) rfl

lemma aiChat_clear : clearAt AiChat.rules
    [(0, 0), (1, 0), (2, 0), (3, 0)] = true := by
  rfl

lemma aiChat_understood (command : AiChat.Command) :
    Understood AiChat.rules (aiChatText command).toList command := by
  cases command with
  | setMode mode =>
    exact understood_text aiChat_clear 0 0 rfl rfl rfl (mode, ()) ⟨trivial, trivial⟩
      (by dsimp only [filled, written, aiChatText]; simp) rfl
  | ask prompt =>
    exact understood_text aiChat_clear 1 0 rfl rfl rfl (prompt, ())
      ⟨trivial, trivial⟩ (by dsimp only [filled, written, aiChatText]; simp) rfl
  | refine =>
    exact understood_text aiChat_clear 2 0 rfl rfl rfl () trivial
      (by dsimp only [filled, aiChatText]; simp) rfl
  | analyze =>
    exact understood_text aiChat_clear 3 0 rfl rfl rfl () trivial
      (by dsimp only [filled, aiChatText]; simp) rfl

lemma colony_clear : clearAt Colony.rules
    [(0, 0), (1, 0), (3, 0), (4, 0), (5, 0), (7, 0),
      (8, 1), (9, 0), (10, 0), (11, 0), (12, 0), (13, 0), (14, 0)] = true := by
  rfl

lemma colony_understood (command : Colony.Command) (h : Expressible (.colony command)) :
    Understood Colony.rules (colonyText command).toList command := by
  cases command with
  | setResource resource amount =>
    exact understood_text colony_clear 0 0 rfl rfl rfl (resource, amount, ())
      ⟨h.1, h.2, trivial⟩ (by dsimp only [filled, written, colonyText]; simp) rfl
  | adjustResource resource sign amount =>
    exact understood_text colony_clear 1 0 rfl rfl rfl (resource, sign, amount, ())
      ⟨h.1, trivial, h.2, trivial⟩ (by dsimp only [filled, written, colonyText]; simp) rfl
  | moveColonist x y =>
    exact understood_text colony_clear 3 0 rfl rfl rfl (x, y, ())
      ⟨trivial, trivial, trivial⟩ (by dsimp only [filled, written, colonyText]; simp) rfl
  | heal =>
    exact understood_text colony_clear 4 0 rfl rfl rfl () trivial
      (by dsimp only [filled, colonyText]; simp) rfl
  | revive =>
    exact understood_text colony_clear 5 0 rfl rfl rfl () trivial
      (by dsimp only [filled, colonyText]; simp) rfl
  | build kind x y =>
    exact understood_text colony_clear 7 0 rfl rfl rfl (kind, x, y, ())
      ⟨trivial, trivial, trivial, trivial⟩ (by dsimp only [filled, written, colonyText]; simp) rfl
  | demolish x y =>
    exact understood_text colony_clear 8 1 rfl rfl rfl (x, y, ())
      ⟨trivial, trivial, trivial⟩ (by dsimp only [filled, written, colonyText]; simp) rfl
  | auto on =>
    exact understood_text colony_clear 9 0 rfl rfl rfl (on, ()) ⟨trivial, trivial⟩
      (by dsimp only [filled, written, colonyText]; simp) rfl
  | pause =>
    exact understood_text colony_clear 10 0 rfl rfl rfl () trivial
      (by dsimp only [filled, colonyText]; simp) rfl
  | resume =>
    exact understood_text colony_clear 11 0 rfl rfl rfl () trivial
      (by dsimp only [filled, colonyText]; simp) rfl
  | setWeather weather =>
    exact understood_text colony_clear 12 0 rfl rfl rfl (weather, ())
      ⟨trivial, trivial⟩ (by dsimp only [filled, written, colonyText]; simp) rfl
  | setTemperature degrees =>
    exact understood_text colony_clear 13 0 rfl rfl rfl (degrees, ())
      ⟨trivial, trivial⟩ (by dsimp only [filled, written, colonyText]; simp) rfl
  | disaster kind =>
    exact understood_text colony_clear 14 0 rfl rfl rfl (kind, ()) ⟨h, trivial⟩
      (by dsimp only [filled, written, colonyText]; simp) rfl

lemma understood_canonicalText (command : Command) (h : Expressible command) :
    Understood (rulesOf command.scenario) (canonicalText command).toList command := by
  cases command with
  | programming command =>
    exact understood_map Command.programming (programming_understood command h)
  | algorithm command => exact understood_map Command.algorithm (algorithm_understood command h)
  | dataStructure command =>
    exact understood_map Command.dataStructure (dataStructure_understood command)
  | math command => exact understood_map Command.math (math_understood command h)
  | physics command => exact understood_map Command.physics (physics_understood command h)
  | game command => exact understood_map Command.game (game_understood command)
  | hash command => exact understood_map Command.hash (hash_understood command h)
  | strategy command => exact understood_map Command.strategy (strategy_understood command h)
  | aiChat command => exact understood_map Command.aiChat (aiChat_understood command)
  | colony command => exact understood_map Command.colony (colony_understood command h)

/-- Classification undoes rendering. The text of an expressible command is one line, and the rules
of the scenario classify it as this very command. -/
theorem classify_canonicalText (command : Command) (h : Expressible command) :
    '\n' ∉ (canonicalText command).toList ∧
      ∃ rule family, classify (rulesOf command.scenario) (canonicalText command) =
        .ok ⟨command, rule, family, canonicalText command⟩ := by
  have hunderstood := understood_canonicalText command h
  exact ⟨hunderstood.1.oneLine, classify_of_understood hunderstood⟩

theorem circle_classified :
    canonicalText (.math (.circle 0 (-2.5) 1.5)) = "draw circle at(0,-2.5) radius 1.5" ∧
      ∃ rule family, classify (rulesOf .math) "draw circle at(0,-2.5) radius 1.5" =
        .ok ⟨.math (.circle 0 (-2.5) 1.5), rule, family, "draw circle at(0,-2.5) radius 1.5"⟩ := by
  have hx : IsDecimal 0 := ⟨by decide +kernel, by decide +kernel⟩
  have hy : IsDecimal (-2.5) := ⟨by decide +kernel, by decide +kernel⟩
  have hradius : IsDecimal 1.5 := ⟨by decide +kernel, by decide +kernel⟩
  have htext : canonicalText (.math (.circle 0 (-2.5) 1.5)) =
      "draw circle at(0,-2.5) radius 1.5" := by decide +kernel
  have hclassified := (classify_canonicalText (.math (.circle 0 (-2.5) 1.5)) ⟨hx, hy, hradius⟩).2
  rw [htext] at hclassified
  exact ⟨htext, hclassified⟩

end Microworlds.Proofs

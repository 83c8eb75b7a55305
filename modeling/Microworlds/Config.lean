import Microworlds.Literal
import Microworlds.Decimal.Layout
import Microworlds.Json.Coded
import Microworlds.Json.Reader

/-!
# Configuration

Every setting has a default. A JSON text or variables of the environment can set it otherwise, and the
result is checked.
-/

namespace Microworlds

structure Config where
  /-- The modulus of a hash function that is called by its name. -/
  hashModulus : UInt32
  /-- The seed of the replies in the chat. -/
  aiSeed : UInt64
  /-- How many times as fast a replay goes. -/
  replaySpeed : Float
  /-- The file that keeps the progress, if it is kept. -/
  progressPath : Option String

inductive ConfigError where
  | invalidValue (key value reason : String)
  | unreadable
  deriving DecidableEq, Repr

/-- The text shown to the user. A text that is no JSON has no message of its own. -/
def ConfigError.message? : ConfigError → Option String
  | invalidValue key value reason =>
    some ("invalid value for " ++ key ++ ": " ++ value ++ " (" ++ reason ++ ")")
  | unreadable => none

namespace Config

/-- The settings where nothing else is said. -/
def standard : Config := ⟨8, 7, 1, none⟩

/-- Refuses settings that cannot be worked with. -/
def validate (config : Config) : Except ConfigError Config :=
  if config.hashModulus = 0 then .error (.invalidValue "hash_modulus" "0" "must be positive")
  else if !(config.replaySpeed.isFinite && 0 < config.replaySpeed) then
    .error (.invalidValue "replay_speed" (Decimal.display config.replaySpeed)
      "must be a positive number")
  else .ok config

/-- A setting of the environment; it stays as it is if the variable is not set. -/
def overridden {α : Type} (lookup : String → Option String) (key reason : String)
    (read? : List Char → Option α) (current : α) : Except ConfigError α :=
  match lookup key with
  | none => .ok current
  | some raw =>
    match read? (Text.trim raw.toList) with
    | some value => .ok value
    | none => .error (.invalidValue key raw reason)

/-- The path in a variable. A blank one does not count. -/
def overriddenPath (lookup : String → Option String) (key : String) (current : Option String) :
    Option String :=
  match lookup key with
  | none => current
  | some raw =>
    let path := Text.trimmed raw
    if path.isEmpty then current else some path

/-- The variables of the environment that settings are taken from. -/
def variableNames : List String :=
  ["PLAYGROUND_HASH_MODULUS", "PLAYGROUND_AI_SEED", "PLAYGROUND_REPLAY_SPEED",
    "PLAYGROUND_PROGRESS"]

/-- The settings with the variables of an environment over them. -/
def withOverrides (lookup : String → Option String) (config : Config) :
    Except ConfigError Config := do
  let hashModulus ← overridden lookup "PLAYGROUND_HASH_MODULUS" "expected a positive integer"
    (fun cs => (Literal.readUnsigned? Word.greatest32 cs).map UInt32.ofNat) config.hashModulus
  let aiSeed ← overridden lookup "PLAYGROUND_AI_SEED" "expected an unsigned integer"
    (fun cs => (Literal.readUnsigned? Word.greatest64 cs).map UInt64.ofNat) config.aiSeed
  let replaySpeed ← overridden lookup "PLAYGROUND_REPLAY_SPEED" "expected a number"
    (fun cs => Decimal.read? (String.ofList cs)) config.replaySpeed
  let progressPath := overriddenPath lookup "PLAYGROUND_PROGRESS" config.progressPath
  validate ⟨hashModulus, aiSeed, replaySpeed, progressPath⟩

end Config

/-- A field that has a value of its own when it is missing. -/
def fieldOr? {α : Type} [Coded α] (missing : α) : Option Json → Option α
  | some value => decode? value
  | none => some missing

instance : Coded Config where
  encode config := .obj [
    ("hash_modulus", encode config.hashModulus),
    ("ai_seed", encode config.aiSeed),
    ("replay_speed", encode config.replaySpeed),
    ("progress_path", encode config.progressPath)]
  decode? value := do
    let [hashModulus, aiSeed, replaySpeed, progressPath] ←
      value.openFields? 0 ["hash_modulus", "ai_seed", "replay_speed", "progress_path"] | none
    return ⟨← fieldOr? Config.standard.hashModulus hashModulus,
      ← fieldOr? Config.standard.aiSeed aiSeed,
      ← fieldOr? Config.standard.replaySpeed replaySpeed, ← optionalField? progressPath⟩

def Config.ofText (text : String) : Except ConfigError Config :=
  match (Json.read? text).bind decode? with
  | some config => Config.validate config
  | none => .error .unreadable

end Microworlds

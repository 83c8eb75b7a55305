import Microworlds.Json.Printer
import Microworlds.Lesson

/-!
# Requests of a host

A host that keeps the state of a session itself sends a request with each program and gets the state
back with the results. A request can also name an order of the lesson's blocks in place of a program.
-/

namespace Microworlds

structure Request where
  scenario : String
  code : String
  /-- The state to go on from. One of another scenario is put aside. -/
  state : Option State
  /-- The order of the lesson's blocks. If it is there, the program does not count. -/
  order : Option (List Nat)
  config : Option Config

structure Response where
  scenario : Scenario
  results : List LineResult
  state : State

/-- Why a request is not carried out. -/
inductive RequestError where
  /-- The bytes are no text. -/
  | notText
  /-- The text is no request. -/
  | malformed
  | outOfOrder (mismatch : OrderMismatch)
  deriving DecidableEq, Repr

def RequestError.message : RequestError → String
  | notText => "invalid UTF-8 input"
  | malformed => "invalid request"
  | outOfOrder mismatch => mismatch.message

instance : Coded Request where
  encode request := .obj [
    ("scenario", encode request.scenario),
    ("code", encode request.code),
    ("state", encode request.state),
    ("order", encode request.order),
    ("config", encode request.config)]
  decode? value := do
    let [scenario, code, state, order, config] ←
      value.openFields? 1 ["scenario", "code", "state", "order", "config"] | none
    return ⟨← field? scenario, ← fieldOr? "" code, ← optionalField? state,
      ← optionalField? order, ← optionalField? config⟩

instance : Coded Response where
  encode response := .obj [
    ("scenario", encode response.scenario),
    ("results", encode response.results),
    ("state", encode response.state)]
  decode? value := do
    let [scenario, results, state] ← value.fields? ["scenario", "results", "state"] | none
    return ⟨← field? scenario, ← field? results, ← field? state⟩

namespace Request

def session (request : Request) : Session :=
  .resume (.resolve request.scenario) request.state (request.config.getD .standard)

/-- Carries out a request. Nothing comes out if a count leaves its range. -/
def answer (request : Request) : Option (Except RequestError Response) :=
  let run : Except RequestError (Option (List LineResult × Session)) :=
    match request.order with
    | some order => (request.session.runLesson order).mapError .outOfOrder
    | none => .ok (request.session.run request.code)
  match run with
  | .error e => some (.error e)
  | .ok none => none
  | .ok (some (results, session)) => some (.ok ⟨session.scenario, results, session.state⟩)

/-- Carries out the request that a value is the form of. Nothing stands for what is no value. -/
def answerValue (value : Option Json) : Option (Except RequestError Response) :=
  match value.bind decode? with
  | some request => answer request
  | none => some (.error .malformed)

def answerText (text : String) : Option (Except RequestError Response) :=
  answerValue (Json.read? text)

def answerBytes (bytes : ByteArray) : Option (Except RequestError Response) :=
  match String.fromUTF8? bytes with
  | some text => answerText text
  | none => some (.error .notText)

def report : Except RequestError Response → Json
  | .ok response => encode response
  | .error e => .obj [("error", .str e.message)]

end Request

end Microworlds

import Microworlds.CommandLine.Arguments
import Microworlds.Lesson
import Microworlds.Progress.File
import Microworlds.Transcript

/-!
# Runs of the command line

A run from the arguments to the exit code. What it needs of its surroundings stands in a `Host`, so
that a run can be carried out on a machine as well as on a description of one.
-/

namespace Microworlds.CommandLine

/-- Why a file cannot be read. -/
structure ReadError where
  /-- Whether there is no such file. -/
  absent : Bool
  reason : String
  deriving DecidableEq, Repr

structure Host (m : Type → Type) where
  /-- A variable of the environment. -/
  environment? : String → m (Option String)
  contents : String → m (Except ReadError ByteArray)
  input : m (Except ReadError ByteArray)
  /-- Writes a file and tells whether this has worked. -/
  overwrite : String → ByteArray → m Bool
  /-- Writes a text to standard output. -/
  print : String → m Unit
  /-- Writes a text to the standard error output. -/
  complain : String → m Unit
  /-- Lets a number of nanoseconds pass. -/
  wait : Nat → m Unit
  now : m Instant

namespace Host

variable {m : Type → Type}

def printLine (host : Host m) (line : String) : m Unit :=
  host.print (line ++ "\n")

/-- Writes a line to the standard error output. -/
def complainLine (host : Host m) (line : String) : m Unit :=
  host.complain (line ++ "\n")

end Host

inductive Exit where
  /-- Every statement has succeeded. -/
  | success
  | failure
  /-- The arguments are wrong. -/
  | usage
  /-- A count has left its range, or a pause is too long. -/
  | breakdown
  deriving DecidableEq, Repr

def Exit.code : Exit → UInt32
  | success => 0
  | failure => 1
  | usage => 2
  | breakdown => 101

def textOf (bytes : Except ReadError ByteArray) : Except ReadError String := do
  match String.fromUTF8? (← bytes) with
  | some text => return text
  | none => throw ⟨false, "stream did not contain valid UTF-8"⟩

variable {m : Type → Type} [Monad m]

/-- The settings, with the variables of the environment over them. -/
def settings (host : Host m) : m (Except ConfigError Config) := do
  let found ← Config.variableNames.mapM fun name => do return (name, ← host.environment? name)
  return Config.standard.withOverrides fun name => (found.lookup name).join

/-- What is kept of a learner's progress in a file. A file that cannot be read gives nothing. -/
def keptProgress (host : Host m) (path : String) :
    m (Option (Progress.Tracker (Option ByteArray))) := do
  match ← host.contents path with
  | .ok bytes =>
    return (Progress.Tracker.load (.file Digest.ofText) (some bytes)).toOption
  | .error e =>
    if e.absent then return (Progress.Tracker.load (.file Digest.ofText) none).toOption
    else return none

/-- Keeps the completion of a lesson and tells what it has earned. A learner without a file, or with
one that cannot be read or written, is told nothing. The answer is whether no count leaves its
range. -/
def recordProgress (host : Host m) (config : Config) (scenario : Scenario) : m Bool := do
  match config.progressPath with
  | none => return true
  | some path =>
    match ← keptProgress host path with
    | none => return true
    | some tracker =>
      match tracker.completeCurrent (.file Digest.ofText) scenario (← host.now) with
      | (.ok (some (.granted grant)), next) =>
        if ← host.overwrite path (next.place.getD .empty) then
          host.printLine s!"+{grant.xpGained} XP (level {grant.level})"
        return true
      | (.ok (some .alreadyCompleted), _) =>
        host.printLine "lesson already completed"
        return true
      | (.error .overflow, _) => return false
      | _ => return true

/-- Shows the frames of a replay, each after its pause. -/
def showFrames (host : Host m) : List Frame → m Unit
  | [] => return
  | frame :: more => do
    host.wait frame.delay
    host.printLine (Transcript.ofFrame frame)
    showFrames host more

/-- Prints results, as JSON or a line each. -/
def printResults (host : Host m) (json : Bool) (results : List LineResult) : m Unit :=
  if json then host.printLine ((encode results).pretty 0)
  else host.print (String.join (results.map fun result => result.render ++ "\n"))

def showRun (host : Host m) (arguments : Arguments) (config : Config)
    (results : List LineResult) : m Exit := do
  let timing? := if arguments.replay then Timing.scaled? config.replaySpeed else some .standard
  match timing? with
  | none => return .breakdown
  | some timing =>
    if arguments.replay then
      showFrames host (frames timing results)
    printResults host arguments.json results
    return if results.all (·.isSuccess) then .success else .failure

/-- Carries out a program that has been read, and shows its results. -/
def runText (host : Host m) (arguments : Arguments) (config : Config) (session : Session)
    (name : String) (text : Except ReadError String) : m Exit := do
  match text with
  | .error e =>
    host.complainLine ("Failed to read " ++ name ++ ": " ++ e.reason)
    return .failure
  | .ok code =>
    match session.run code with
    | some (results, _) => showRun host arguments config results
    | none => return .breakdown

/-- Carries out the lesson of a session, keeps its completion, and shows the results. -/
def runLesson (host : Host m) (arguments : Arguments) (config : Config) (session : Session)
    (order : List Nat) : m Exit := do
  match session.runLesson order with
  | .error mismatch =>
    host.complainLine mismatch.message
    return .failure
  | .ok none => return .breakdown
  | .ok (some (results, _)) =>
    if ← recordProgress host config session.scenario then showRun host arguments config results
    else return .breakdown

def perform (host : Host m) (arguments : Arguments) (config : Config) : m Exit := do
  let session := Session.start (.resolve arguments.scenario) config
  match arguments.program with
  | .lesson order => runLesson host arguments config session order
  | .standardInput => do
    runText host arguments config session "-" (textOf (← host.input))
  | .file path => do
    runText host arguments config session path (textOf (← host.contents path))

def run (host : Host m) (arguments : List String) : m Exit := do
  match Arguments.read arguments with
  | .error .help =>
    host.print usage
    return .success
  | .error .wrong =>
    host.complain usage
    return .usage
  | .ok arguments =>
    match ← settings host with
    | .error e =>
      host.complainLine ("Config Error: " ++ e.message?.getD "")
      return .failure
    | .ok config => perform host arguments config

end Microworlds.CommandLine

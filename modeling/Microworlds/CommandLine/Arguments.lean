import Microworlds.Literal

/-!
# Arguments of the command line

A scenario, a program and two switches. The program stands in a file or on standard input, or it is
the lesson of the scenario with its blocks in a given order. Options may stand anywhere; what follows
`--` is no option.
-/

namespace Microworlds.CommandLine

/-- Where the program comes from. -/
inductive Program where
  /-- The lesson, with its blocks in this order. -/
  | lesson (order : List Nat)
  | standardInput
  | file (path : String)
  deriving DecidableEq, Repr

structure Arguments where
  scenario : String
  program : Program
  /-- Whether the results are printed as JSON. -/
  json : Bool
  /-- Whether the steps are shown with their pauses first. -/
  replay : Bool
  deriving DecidableEq, Repr

/-- Why arguments lead to no run. -/
inductive Usage where
  | help
  | wrong
  deriving DecidableEq, Repr

/-- What has been read of the arguments so far. -/
structure Draft where
  /-- The arguments that are no options. -/
  plain : List String
  order : Option (List Nat)
  json : Bool
  replay : Bool

namespace Draft

/-- Adds an argument that is no option. There are two at most. -/
def addPlain (draft : Draft) (argument : String) : Except Usage Draft :=
  if draft.plain.length < 2 then .ok { draft with plain := draft.plain ++ [argument] }
  else .error .wrong

/-- Adds positions of blocks, written as whole numbers between commas. -/
def addOrder (draft : Draft) (text : String) : Except Usage Draft :=
  match (Text.pieces ',' text.toList).mapM (Literal.readUnsigned? Word.greatest64) with
  | some positions => .ok { draft with order := some (draft.order.getD [] ++ positions) }
  | none => .error .wrong

/-- Whether an argument is taken for an option. A dash alone is none. -/
def isOption (argument : String) : Bool :=
  argument.startsWith "-" && argument != "-"

/-- The value in an argument that names an option and its value. -/
def valueOf? (option argument : String) : Option String :=
  if argument.startsWith (option ++ "=") then some (argument.drop (option.length + 1)).toString
  else none

/-- Reads arguments one after the other. -/
def read (draft : Draft) : List String → Except Usage Draft
  | [] => .ok draft
  | "--" :: rest => rest.foldlM addPlain draft
  | "--json" :: rest =>
    if draft.json then .error .wrong else read { draft with json := true } rest
  | "--replay" :: rest =>
    if draft.replay then .error .wrong else read { draft with replay := true } rest
  | "--lesson" :: value :: rest =>
    if isOption value then .error .wrong
    else do read (← draft.addOrder value) rest
  | "--help" :: _ => .error .help
  | argument :: rest =>
    if !isOption argument then do read (← draft.addPlain argument) rest
    else if argument.startsWith "-h" then .error .help
    else match valueOf? "--lesson" argument with
      | some value => do read (← draft.addOrder value) rest
      | none => .error .wrong

end Draft

/-- Reads the arguments of the command line. There is a scenario, and either an order of blocks or a
file, where a dash stands for standard input. -/
def Arguments.read (arguments : List String) : Except Usage Arguments := do
  let draft ← Draft.read ⟨[], none, false, false⟩ arguments
  match draft.plain, draft.order with
  | [scenario], some order => return ⟨scenario, .lesson order, draft.json, draft.replay⟩
  | [scenario, "-"], none => return ⟨scenario, .standardInput, draft.json, draft.replay⟩
  | [scenario, path], none => return ⟨scenario, .file path, draft.json, draft.replay⟩
  | _, _ => throw .wrong

/-- What is said about the use of the program. -/
def usage : String :=
  "Usage: microworlds [--json] [--replay] SCENARIO (FILE | - | --lesson POSITIONS)\n\n" ++
  "Carries out a program in a scenario. An unknown scenario stands for programming.\n\n" ++
  "  --lesson POSITIONS  carry out the lesson with its blocks in this order, such as 0,1,2,3\n" ++
  "  --json              print the results as JSON\n" ++
  "  --replay            show the steps with their pauses first\n" ++
  "  --help              print this text\n"

end Microworlds.CommandLine

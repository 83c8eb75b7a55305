import Microworlds.Replay
import Microworlds.Text.Invisible

/-!
# Transcripts

A replay as text: a line for every frame, the steps set in under the line of the program they belong
to.
-/

namespace Microworlds

namespace Transcript

/-- A single character in quotes. A character that would not be seen is written as an escape. -/
def quoteChar (c : Char) : String :=
  let shown :=
    if c = '\x00' then "\\0"
    else if c = '\t' then "\\t"
    else if c = '\r' then "\\r"
    else if c = '\n' then "\\n"
    else if c = '\\' then "\\\\"
    else if c = '\'' then "\\'"
    else if Text.isInvisible c then
      "\\u\x7b" ++ String.ofList (Nat.toDigits 16 c.toNat) ++ "\x7d"
    else String.singleton c
  "'" ++ shown ++ "'"

def nameOf : Step → String
  | .compare .. => "Compare"
  | .swap .. => "Swap"
  | .settle .. => "Settle"
  | .inspect .. => "Inspect"
  | .found .. => "Found"
  | .accumulate .. => "Accumulate"
  | .heapSwap .. => "HeapSwap"
  | .visit .. => "Visit"
  | .move .. => "Move"
  | .collect .. => "Collect"

/-- What a step is about, each part with its name. -/
def partsOf : Step → List (String × String)
  | .compare left right | .swap left right => [("left", toString left), ("right", toString right)]
  | .settle index | .inspect index | .found index => [("index", toString index)]
  | .accumulate character code runningSum =>
    [("character", quoteChar character), ("code", toString code),
      ("running_sum", toString runningSum)]
  | .heapSwap child parent => [("child", toString child), ("parent", toString parent)]
  | .visit value => [("value", toString value)]
  | .move x y => [("x", toString x), ("y", toString y)]
  | .collect x y score => [("x", toString x), ("y", toString y), ("score", toString score)]

def ofStep (step : Step) : String :=
  let parts := (partsOf step).map fun (name, value) => name ++ ": " ++ value
  nameOf step ++ " \x7b " ++ ", ".intercalate parts ++ " \x7d"

def ofFrame (frame : Frame) : String :=
  match frame.step with
  | none => "▶ " ++ frame.sourceLine
  | some step => "    " ++ ofStep step

end Transcript

end Microworlds

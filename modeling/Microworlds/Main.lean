import Std.Time.DateTime.Timestamp
import Microworlds.CommandLine.Run

/-!
# The program

The command line on a machine: files, streams, the clock and the environment.
-/

namespace Microworlds.Machine

/-- The reason of the system with its code, which some calls give as a negative number. -/
def reason (code : UInt32) (details : String) : String :=
  let number := if code < 2147483648 then code else 0 - code
  s!"{details.capitalize} (os error {number})"

/-- Why the system refuses to read. -/
def readError (e : IO.Error) : CommandLine.ReadError :=
  match e with
  | .noFileOrDirectory _ code details => ⟨true, reason code details⟩
  | .noSuchThing _ code details => ⟨true, reason code details⟩
  | .inappropriateType _ code details => ⟨false, reason code details⟩
  | .permissionDenied _ code details => ⟨false, reason code details⟩
  | other => ⟨false, toString other⟩

/-- The bytes of a stream up to its end. -/
partial def readAll (stream : IO.FS.Stream) (bytes : ByteArray) : IO ByteArray := do
  let more ← stream.read 65536
  if more.isEmpty then return bytes else readAll stream (bytes ++ more)

/-- The result of an action, or why the system refuses it. -/
def attempt {α : Type} (action : IO α) : IO (Except CommandLine.ReadError α) := do
  try
    return .ok (← action)
  catch e =>
    return .error (readError e)

/-- The point in time that the clock shows. -/
def now : IO Instant := do
  let time ← Std.Time.Timestamp.now
  let nanos := time.toNanosecondsSinceUnixEpoch.val
  return ⟨nanos / 1000000000, (nanos % 1000000000).toNat⟩

def host : CommandLine.Host IO where
  environment? name := IO.getEnv name
  contents path := attempt (IO.FS.readBinFile path)
  input := do attempt (readAll (← IO.getStdin) .empty)
  overwrite path bytes := do
    return (← attempt (IO.FS.writeBinFile path bytes)).isOk
  print text := do (← IO.getStdout).putStr text
  complain text := do (← IO.getStderr).putStr text
  wait nanoseconds := IO.sleep (UInt32.ofNat (min ((nanoseconds + 999999) / 1000000) 4294967295))
  now := now

end Microworlds.Machine

def main (arguments : List String) : IO UInt32 := do
  return (← Microworlds.CommandLine.run Microworlds.Machine.host arguments).code

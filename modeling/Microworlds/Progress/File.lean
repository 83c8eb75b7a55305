import Microworlds.Digest.Sha256
import Microworlds.Json.Printer
import Microworlds.Json.Reader
import Microworlds.Progress.Tracker

/-!
# Files of progress

A file holds a record in JSON next to a digest of the record's canonical text. The digest is taken of
the value, so the layout of the file and the order of the members in it do not matter. A file whose
digest is another one is refused.
-/

namespace Microworlds.Progress

/-- Why a file gives no record. -/
inductive FileError where
  /-- The file cannot be read or written, or it is no text. -/
  | unavailable
  /-- The text is not that of a record with its digest. -/
  | unreadable
  | digestMismatch (expected computed : String)
  deriving DecidableEq, Repr

/-- The text shown to the user. The other errors have no message of their own. -/
def FileError.message? : FileError → Option String
  | digestMismatch expected computed =>
    some s!"Integrity Error: Hash Mismatch. Expected {expected}, computed {computed}."
  | unavailable | unreadable => none

/-- A record as it stands in a file, before it has been checked. -/
structure Envelope where
  checksum : String
  record : Json

instance : Coded Envelope where
  encode envelope := .obj [("checksum", .str envelope.checksum), ("record", envelope.record)]
  decode? value := do
    let [some checksum, some record] ← value.fields? ["checksum", "record"] | none
    return ⟨← decode? checksum, (← record.whole?).sorted⟩

/-- The canonical text of a value: compact, with the members of all objects in order. -/
def canonical (value : Json) : String :=
  value.sorted.compact

def Envelope.ofRecord (digest : String → String) (record : Record) : Envelope :=
  let value := (encode record).sorted
  ⟨digest (canonical value), value⟩

/-- The record in an envelope, if the digest is the right one. -/
def Envelope.verify (digest : String → String) (envelope : Envelope) : Except FileError Record :=
  let computed := digest (canonical envelope.record)
  if computed = envelope.checksum then
    match decode? envelope.record with
    | some record => .ok record
    | none => .error .unreadable
  else .error (.digestMismatch envelope.checksum computed)

namespace File

/-- The text of the file that keeps a record. -/
def write (digest : String → String) (record : Record) : String :=
  (encode (Envelope.ofRecord digest record)).pretty 0

/-- The record in the text of a file. -/
def read (digest : String → String) (text : String) : Except FileError Record :=
  match (Json.read? text).bind decode? with
  | some envelope => Envelope.verify digest envelope
  | none => .error .unreadable

/-- The record in the bytes of a file. -/
def readBytes (digest : String → String) (bytes : ByteArray) : Except FileError Record :=
  match String.fromUTF8? bytes with
  | some text => read digest text
  | none => .error .unavailable

end File

/-- The store that keeps a record in the bytes of a file, which need not be there. -/
def Store.file (digest : String → String) : Store (Option ByteArray) FileError where
  load
    | none => .ok none
    | some bytes => (File.readBytes digest bytes).map some
  save record _ := (.ok (), some (File.write digest record).toUTF8)

end Microworlds.Progress

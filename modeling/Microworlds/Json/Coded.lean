import Microworlds.Json.Value
import Microworlds.Word

/-!
# Values in JSON

`Coded` gives a type its form in JSON and the reading of that form. Records are objects whose unknown
members count for nothing; a record may also be written as the array of its fields in order. A field
of an optional type may be missing from an object.
-/

namespace Microworlds

class Coded (α : Type) where
  encode : α → Json
  decode? : Json → Option α

export Coded (encode decode?)

namespace Json

/-- The fields of a record, in the order of their names. No field stands twice. In an array the fields
after the given number may be missing at its end. -/
def openFields? (least : Nat) (names : List String) : Json → Option (List (Option Json))
  | obj members =>
    if names.any fun name => 1 < occurrences members name then none
    else some (names.map (member? members))
  | arr items =>
    if least ≤ items.length ∧ items.length ≤ names.length then
      some (items.map some ++ List.replicate (names.length - items.length) none)
    else none
  | _ => none

/-- The fields of a record, in the order of their names. An array has to have all of them. -/
def fields? (names : List String) (value : Json) : Option (List (Option Json)) :=
  value.openFields? names.length names

/-- The tag of a tagged record, and the record without it. In an array the tag comes first. -/
def tagged? (tag : String) : Json → Option (Json × Json)
  | obj members =>
    if occurrences members tag = 1 then
      (member? members tag).map (·, obj (members.filter (·.1 != tag)))
    else none
  | arr (first :: items) => some (first, arr items)
  | _ => none

/-- The word of a tag inside a tagged record: one of the given words, or its position among them. -/
def choice? (words : List String) : Json → Option String
  | str word => if word ∈ words then some word else none
  | int n => n.toNat?.bind (words[·]?)
  | _ => none

/-- The word of a value that is one of a few words. The word may also be the key of a `null`. -/
def word? : Json → Option String
  | str word => some word
  | obj [(word, null)] => some word
  | _ => none

/-- The word of a value inside a tagged record, where it may also be the key of an empty object. -/
def innerWord? : Json → Option String
  | obj [(word, obj [])] => some word
  | value => value.word?

end Json

def field? {α : Type} [Coded α] : Option Json → Option α
  | some value => decode? value
  | none => none

instance : Coded Bool where
  encode := .bool
  decode?
    | .bool b => some b
    | _ => none

instance : Coded String where
  encode := .str
  decode?
    | .str s => some s
    | _ => none

instance : Coded Int64 where
  encode n := .int n.toInt
  decode?
    | .int n => Word.int64? n
    | _ => none

instance : Coded UInt64 where
  encode n := .int n.toNat
  decode?
    | .int n => n.toNat?.bind Word.uint64?
    | _ => none

instance : Coded UInt32 where
  encode n := .int n.toNat
  decode?
    | .int n => n.toNat?.bind Word.uint32?
    | _ => none

/-- Positions in a list and numbers of lines. -/
instance : Coded Nat where
  encode n := .int n
  decode?
    | .int n => n.toNat?
    | _ => none

instance : Coded Float where
  encode := .float
  decode?
    | .float x => some x
    | .int n => some (Float.ofInt n)
    | _ => none

instance : Coded Char where
  encode c := .str (String.singleton c)
  decode?
    | .str s => match s.toList with
      | [c] => some c
      | _ => none
    | _ => none

instance {α : Type} [Coded α] : Coded (Option α) where
  encode
    | some a => encode a
    | none => .null
  decode?
    | .null => some none
    | value => (decode? value).map some

/-- A field that counts as absent when it is missing. -/
def optionalField? {α : Type} [Coded α] : Option Json → Option (Option α)
  | some value => decode? value
  | none => some none

instance {α : Type} [Coded α] : Coded (List α) where
  encode items := .arr (items.map encode)
  decode?
    | .arr items => items.mapM decode?
    | _ => none

instance {α β : Type} [Coded α] [Coded β] : Coded (α × β) where
  encode pair := .arr [encode pair.1, encode pair.2]
  decode?
    | .arr [first, second] => do return (← decode? first, ← decode? second)
    | _ => none

instance {α : Type} [Coded α] : Coded (Table α) where
  encode table := .obj (table.entries.map fun entry => (entry.1, encode entry.2))
  decode?
    | .obj members => do
      let entries ← members.mapM fun member => do return (member.1, ← decode? member.2)
      return Table.ofList entries
    | _ => none

end Microworlds

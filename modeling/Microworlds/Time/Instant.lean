import Microworlds.Text.Class
import Microworlds.Decimal.Read
import Microworlds.Json.Coded

/-!
# Instants

A point in time in UTC, read and written as a calendar date with the time of day. On reading, white
space is allowed between the parts, a blank may stand for the `T`, and the time may be given with an
offset from UTC. On writing, as few of 0, 3, 6 or 9 places of the second are written as are exact.
-/

namespace Microworlds

/-- A point in time. During a leap second the nanoseconds go on beyond a whole second. -/
structure Instant where
  /-- Seconds since the beginning of 1970, without leap seconds. -/
  seconds : Int
  nanos : Nat
  deriving DecidableEq, Repr

namespace Instant

/-- The number of days from the beginning of 1970 to a date. Years are counted from March, so that
a leap day is the last day of its year. -/
def daysOfDate (year : Int) (month day : Nat) : Int :=
  let y : Int := if month ≤ 2 then year - 1 else year
  let shifted : Nat := if month ≤ 2 then month + 9 else month - 3
  let dayOfYear : Nat := (153 * shifted + 2) / 5 + day - 1
  365 * y + Int.fdiv y 4 - Int.fdiv y 100 + Int.fdiv y 400 + dayOfYear - 719468

/-- The date of a number of days from the beginning of 1970. -/
def dateOfDays (days : Int) : Int × Nat × Nat :=
  let shifted := days + 719468
  let era := Int.fdiv shifted 146097
  let dayOfEra := (shifted - era * 146097).toNat
  let yearOfEra := (dayOfEra - dayOfEra / 1460 + dayOfEra / 36524 - dayOfEra / 146096) / 365
  let dayOfYear := dayOfEra - (365 * yearOfEra + yearOfEra / 4 - yearOfEra / 100)
  let marchMonth := (5 * dayOfYear + 2) / 153
  let day := dayOfYear - (153 * marchMonth + 2) / 5 + 1
  let month := if marchMonth < 10 then marchMonth + 3 else marchMonth - 9
  let year := era * 400 + yearOfEra
  (if month ≤ 2 then year + 1 else year, month, day)

def isLeap (year : Int) : Bool :=
  year % 4 == 0 && (year % 100 != 0 || year % 400 == 0)

def daysOfMonth (year : Int) (month : Nat) : Nat :=
  if month = 2 then (if isLeap year then 29 else 28)
  else if month = 4 ∨ month = 6 ∨ month = 9 ∨ month = 11 then 30
  else 31

/-- The first year that a date can have. -/
def firstYear : Int := -262143

/-- The last year that a date can have. -/
def lastYear : Int := 262142

/-- Whether a number of days leads to a year in range. -/
def daysInRange (days : Int) : Bool :=
  daysOfDate firstYear 1 1 ≤ days && days ≤ daysOfDate lastYear 12 31

/-- The instant of a date and a time of day that are the given number of seconds ahead of UTC. -/
def ofLocal? (year : Int) (month day hour minute second nanos : Nat) (offset : Int) :
    Option Instant :=
  let leap := second = 60
  let days := daysOfDate year month day
  let shown := days * 86400 + (hour * 3600 + minute * 60 + (if leap then 59 else second) : Nat)
  let seconds := shown - offset
  if firstYear ≤ year ∧ year ≤ lastYear ∧ 1 ≤ month ∧ month ≤ 12 ∧ 1 ≤ day ∧
      day ≤ daysOfMonth year month ∧ hour < 24 ∧ minute < 60 ∧ second ≤ 60 ∧
      offset.natAbs < 86400 ∧ daysInRange (Int.fdiv seconds 86400) then
    some ⟨seconds, if leap then nanos + 1000000000 else nanos⟩
  else none

/-- From one to the given number of digits at the front of a text. -/
def digits? (greatest : Nat) (cs : List Char) : Option (Nat × List Char) :=
  let found := (Decimal.digits cs).1.take greatest
  if found.isEmpty then none else some (Decimal.digitsValue found, cs.drop found.length)

/-- A number of one or two digits after white space. -/
def part? (cs : List Char) : Option (Nat × List Char) :=
  digits? 2 (Text.trimStart cs)

/-- A mark after white space. -/
def mark? (mark : Char) (cs : List Char) : Option (List Char) :=
  match Text.trimStart cs with
  | c :: rest => if c = mark then some rest else none
  | [] => none

/-- A year: four digits at most, or any number of digits after a sign. -/
def year? (cs : List Char) : Option (Int × List Char) :=
  match Text.trimStart cs with
  | '-' :: rest => (digits? rest.length rest).map fun (n, rest) => (-(n : Int), rest)
  | '+' :: rest => (digits? rest.length rest).map fun (n, rest) => ((n : Int), rest)
  | cs => (digits? 4 cs).map fun (n, rest) => ((n : Int), rest)

/-- The letter or the blank between a date and a time of day. -/
def separator? : List Char → Option (List Char)
  | c :: rest => if c = 'T' ∨ c = 't' ∨ c = ' ' then some rest else none
  | [] => none

/-- A fraction of a second in nanoseconds, if there is one. Digits after the ninth do not count. -/
def fraction? : List Char → Option (Nat × List Char)
  | '.' :: rest =>
    match Decimal.digits rest with
    | ([], _) => none
    | (ds, rest) =>
      let kept := ds.take 9
      some (Decimal.digitsValue kept * Nat.pow 10 (9 - kept.length), rest)
  | cs => some (0, cs)

def twoDigits? : List Char → Option (Nat × List Char)
  | a :: b :: rest => do
    let a ← Text.digitValue? a
    let b ← Text.digitValue? b
    return (10 * a + b, rest)
  | _ => none

/-- Hours and minutes ahead of UTC, as seconds. -/
def hoursMinutes? (cs : List Char) : Option (Int × List Char) := do
  let (hours, rest) ← twoDigits? cs
  let (minutes, rest) ← twoDigits? (rest.dropWhile fun c => c == ':' || Text.isBlank c)
  if minutes < 60 then some ((hours * 3600 + minutes * 60 : Nat), rest) else none

/-- An offset from UTC in seconds: `Z`, `UTC`, or a sign with hours and minutes. -/
def offset? : List Char → Option (Int × List Char)
  | 'Z' :: rest => some (0, rest)
  | 'z' :: rest => some (0, rest)
  | '+' :: rest => hoursMinutes? rest
  | '-' :: rest => (hoursMinutes? rest).map fun (n, rest) => (-n, rest)
  | '−' :: rest => (hoursMinutes? rest).map fun (n, rest) => (-n, rest)
  | u :: t :: c :: rest =>
    if u.toUpper = 'U' ∧ t.toUpper = 'T' ∧ c.toUpper = 'C' then some (0, rest) else none
  | _ => none

def read? (text : String) : Option Instant := do
  let (year, rest) ← year? text.toList
  let (month, rest) ← part? (← mark? '-' rest)
  let (day, rest) ← part? (← mark? '-' rest)
  let (hour, rest) ← part? (← separator? rest)
  let (minute, rest) ← part? (← mark? ':' rest)
  let (second, rest) ← part? (← mark? ':' rest)
  let (nanos, rest) ← fraction? rest
  let (offset, rest) ← offset? (Text.trimStart rest)
  if (Text.trimStart rest).isEmpty then ofLocal? year month day hour minute second nanos offset
  else none

/-- A number with zeros in front, so that it has at least the given number of digits. -/
def padded (width n : Nat) : String :=
  let ds := Nat.toDigits 10 n
  String.ofList (List.replicate (width - ds.length) '0' ++ ds)

/-- A year: four digits, or a sign and at least four digits. -/
def showYear (year : Int) : String :=
  if 0 ≤ year ∧ year ≤ 9999 then padded 4 year.toNat
  else (if year < 0 then "-" else "+") ++ padded 4 year.natAbs

/-- The part of the text behind the second. -/
def showFraction (nanos : Nat) : String :=
  if nanos = 0 then ""
  else if nanos % 1000000 = 0 then "." ++ padded 3 (nanos / 1000000)
  else if nanos % 1000 = 0 then "." ++ padded 6 (nanos / 1000)
  else "." ++ padded 9 nanos

def write (instant : Instant) : String :=
  let days := Int.fdiv instant.seconds 86400
  let time := (instant.seconds - days * 86400).toNat
  let (year, month, day) := dateOfDays days
  let leap := instant.nanos / 1000000000
  showYear year ++ "-" ++ padded 2 month ++ "-" ++ padded 2 day ++ "T" ++
    padded 2 (time / 3600) ++ ":" ++ padded 2 (time / 60 % 60) ++ ":" ++
    padded 2 (time % 60 + leap) ++ showFraction (instant.nanos % 1000000000) ++ "Z"

end Instant

instance : Coded Instant where
  encode instant := .str instant.write
  decode?
    | .str text => Instant.read? text
    | _ => none

end Microworlds

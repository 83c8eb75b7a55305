import Microworlds.Json.Value
import Microworlds.Decimal.Read
import Microworlds.Word

/-!
# Reading JSON

A strict reader: one value with nothing but white space around it. Numbers too large for a
floating-point value, strings with half of a surrogate pair, and arrays and objects below 127 levels of
others have to be well-formed, but are `flawed`, so that they are refused where their value matters and
passed over where it does not.

A number without fraction and exponent is a whole number if it fits 64 bits, with or without sign.
Any other number is floating-point: its leading digits, as many as fit 64 bits, are scaled once by a
power of ten, so the last bit need not be the nearest one.
-/

namespace Microworlds.Json

/-- The white space between the parts of a JSON text. -/
def isSpace (c : Char) : Bool :=
  c == ' ' || c == '\n' || c == '\t' || c == '\r'

/-- The text after the white space at its front. -/
def skip (cs : List Char) : List Char :=
  cs.dropWhile isSpace

def hexValue? (c : Char) : Option Nat :=
  if '0' ≤ c ∧ c ≤ '9' then some (c.toNat - '0'.toNat)
  else if 'a' ≤ c ∧ c ≤ 'f' then some (c.toNat - 'a'.toNat + 10)
  else if 'A' ≤ c ∧ c ≤ 'F' then some (c.toNat - 'A'.toNat + 10)
  else none

/-- The four hexadecimal digits of a code unit. -/
def unit? : List Char → Option (Nat × List Char)
  | a :: b :: c :: d :: rest => do
    let a ← hexValue? a
    let b ← hexValue? b
    let c ← hexValue? c
    let d ← hexValue? d
    return (((a * 16 + b) * 16 + c) * 16 + d, rest)
  | _ => none

/-- The character of a surrogate pair whose second half starts the text. -/
def pair? (first : Nat) : List Char → Option (Char × List Char)
  | '\\' :: 'u' :: rest => do
    let (second, rest) ← unit? rest
    if 0xDC00 ≤ second ∧ second ≤ 0xDFFF then
      return (Char.ofNat (0x10000 + (first - 0xD800) * 0x400 + (second - 0xDC00)), rest)
    else none
  | _ => none

/-- What stands after `\u`: a code unit, or two that make a surrogate pair. Half of a pair is no
character. -/
def codePoint? (cs : List Char) : Option (Option Char × List Char) := do
  let (first, rest) ← unit? cs
  if 0xDC00 ≤ first ∧ first ≤ 0xDFFF then return (none, rest)
  else if 0xD800 ≤ first ∧ first ≤ 0xDBFF then
    match pair? first rest with
    | some (c, rest) => return (some c, rest)
    | none => return (none, rest)
  else return (some (Char.ofNat first), rest)

/-- A character inside a string, with the rest of the string. -/
def character? : List Char → Option (Option Char × List Char)
  | '\\' :: c :: rest =>
    match c with
    | '"' => some ('"', rest)
    | '\\' => some ('\\', rest)
    | '/' => some ('/', rest)
    | 'b' => some ('\x08', rest)
    | 'f' => some ('\x0c', rest)
    | 'n' => some ('\n', rest)
    | 'r' => some ('\r', rest)
    | 't' => some ('\t', rest)
    | 'u' => codePoint? rest
    | _ => none
  | c :: rest => if c = '\\' || c.toNat < 32 then none else some (c, rest)
  | [] => none

/-- The characters of a string up to its closing quote, if all of them are characters. The first
argument bounds their number. -/
def characters? : Nat → List Char → Option (Option (List Char) × List Char)
  | _, '"' :: rest => some (some [], rest)
  | 0, _ => none
  | bound + 1, cs => do
    let (c, rest) ← character? cs
    let (more, rest) ← characters? bound rest
    return (c.bind fun c => more.map (c :: ·), rest)

/-- A string, from behind its opening quote. The first argument bounds its length. -/
def string? (bound : Nat) (cs : List Char) : Option (Option String × List Char) :=
  (characters? bound cs).map fun (text, rest) => (text.map String.ofList, rest)

/-- Scales a value by a power of ten. A factor below the range of values is applied in parts. -/
def scaleBy (x : Float) (exponent : Int) : Option Float :=
  if exponent.natAbs ≤ 308 then
    let power := Float.ofScientific 1 false exponent.natAbs
    let scaled := if 0 ≤ exponent then x * power else x / power
    if scaled.isInf then none else some scaled
  else if x == 0 then some x
  else if 0 ≤ exponent then none
  else scaleBy (x / 1e308) (exponent + 308)
termination_by (-exponent).toNat

/-- Adds digits to a number while it fits 64 bits; the number and the digits that did not fit. -/
def takeDigits (n : Nat) : List Char → Nat × List Char
  | [] => (n, [])
  | d :: more =>
    let next := 10 * n + (Text.digitValue? d).getD 0
    if next ≤ Word.greatest64 then takeDigits next more else (n, d :: more)

/-- The exponent of a number, if it has one. -/
def exponentPart? : List Char → Option (Int × List Char)
  | c :: rest =>
    if c = 'e' || c = 'E' then
      let (negative, rest) := Decimal.sign rest
      match Decimal.digits rest with
      | ([], _) => none
      | (ds, rest) =>
        some (if negative then -Decimal.digitsValue ds else Decimal.digitsValue ds, rest)
    else some (0, c :: rest)
  | [] => some (0, [])

/-- The digits behind the point of a number, if it has one. -/
def fractionPart? : List Char → Option (List Char × List Char)
  | '.' :: rest =>
    match Decimal.digits rest with
    | ([], _) => none
    | found => some found
  | cs => some ([], cs)

/-- A number, from behind its minus if it has one. -/
def number? (negative : Bool) (cs : List Char) : Option (Json × List Char) := do
  let (whole, afterWhole) := Decimal.digits cs
  if whole.isEmpty || (whole.head? == some '0' && 1 < whole.length) then none
  let (fraction, afterFraction) ← fractionPart? afterWhole
  let (exponent, rest) ← exponentPart? afterFraction
  let (leading, dropped) := takeDigits 0 whole
  let plain := !afterWhole.head?.any (fun c => c == '.' || c == 'e' || c == 'E') && dropped.isEmpty
  if plain && !negative then return (int leading, rest)
  else if plain && 0 < leading && leading ≤ Word.leastSigned then return (int (-leading), rest)
  else
    let (significand, unread) := takeDigits leading fraction
    let places : Int := dropped.length - (fraction.length - unread.length : Nat)
    match scaleBy (Float.ofNat significand) (places + exponent) with
    | some size => return (float (if negative then -size else size), rest)
    | none => return (flawed, rest)

/-- A word or a number. The first argument bounds the length of a string. -/
def scalar? (bound : Nat) : List Char → Option (Json × List Char)
  | 'n' :: 'u' :: 'l' :: 'l' :: rest => some (null, rest)
  | 't' :: 'r' :: 'u' :: 'e' :: rest => some (bool true, rest)
  | 'f' :: 'a' :: 'l' :: 's' :: 'e' :: rest => some (bool false, rest)
  | '"' :: rest => (string? bound rest).map fun (s, rest) => (s.elim flawed str, rest)
  | '-' :: rest => number? true rest
  | cs => number? false cs

/-- A reader of one value, which also gives the text behind it. -/
abbrev ValueReader := List Char → Option (Json × List Char)

/-- The items of an array from the first one on, up to the closing bracket. -/
def items? (value : ValueReader) : Nat → List Char → Option (List Json × List Char)
  | 0, _ => none
  | bound + 1, cs => do
    let (item, rest) ← value (skip cs)
    match skip rest with
    | ',' :: rest =>
      let (more, rest) ← items? value bound rest
      return (item :: more, rest)
    | ']' :: rest => return ([item], rest)
    | _ => none

/-- The members of an object from the first one on, up to the closing brace, if all keys are sound. -/
def members? (value : ValueReader) :
    Nat → List Char → Option (Option (List (String × Json)) × List Char)
  | 0, _ => none
  | bound + 1, cs =>
    match skip cs with
    | '"' :: rest => do
      let (key, rest) ← string? bound rest
      match skip rest with
      | ':' :: rest =>
        let (item, rest) ← value (skip rest)
        match skip rest with
        | ',' :: rest =>
          let (more, rest) ← members? value bound rest
          return (key.bind fun key => more.map ((key, item) :: ·), rest)
        | '\x7d' :: rest => return (key.map fun key => [(key, item)], rest)
        | _ => none
      | _ => none
    | _ => none

/-- An array or an object, if there are any levels left for it. -/
def within (levels : Nat) (value : Json) : Json :=
  if levels = 0 then flawed else value

/-- A value that may have the given number of levels of arrays and objects. The first argument is more
than the length of the text. -/
def value? : Nat → Nat → ValueReader
  | 0, _, _ => none
  | bound + 1, levels, cs =>
    match cs with
    | '[' :: rest =>
      match skip rest with
      | ']' :: rest => some (within levels (arr []), rest)
      | rest =>
        (items? (value? bound (levels - 1)) bound rest).map fun (found, rest) =>
          (within levels (arr found), rest)
    | '\x7b' :: rest =>
      match skip rest with
      | '\x7d' :: rest => some (within levels (obj []), rest)
      | rest =>
        (members? (value? bound (levels - 1)) bound rest).map fun (found, rest) =>
          (within levels (found.elim flawed obj), rest)
    | cs => scalar? bound cs

/-- How many levels of arrays and objects may matter in a text. -/
def maxLevels : Nat := 127

def read? (text : String) : Option Json :=
  match value? (text.length + 1) maxLevels (skip text.toList) with
  | some (found, rest) => if (skip rest).isEmpty then some found else none
  | none => none

end Microworlds.Json

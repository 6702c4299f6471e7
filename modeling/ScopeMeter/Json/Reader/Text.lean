import ScopeMeter.Json.Reader.Basic

/-!
# Reading JSON: strings

Control characters in strings and halves of surrogate pairs are refused.
-/

namespace ScopeMeter.Json

/-- The value of a hexadecimal digit. -/
def hexValue? (c : Char) : Option Nat :=
  if c.isDigit then some (c.toNat - '0'.toNat)
  else if 'a' ≤ c && c ≤ 'f' then some (c.toNat - 'a'.toNat + 10)
  else if 'A' ≤ c && c ≤ 'F' then some (c.toNat - 'A'.toNat + 10)
  else none

/-- The value of four hexadecimal digits at the start of a text, and the rest. -/
def hex4? : List Char → Option (Nat × List Char)
  | a :: b :: c :: d :: rest => do
    let a ← hexValue? a
    let b ← hexValue? b
    let c ← hexValue? c
    let d ← hexValue? d
    some (((a * 16 + b) * 16 + c) * 16 + d, rest)
  | _ => none

/-- Reads four hexadecimal digits. Four bytes are looked at together, whatever they hold. -/
def readHex4 (cs : List Char) : Reading (Taken Nat) :=
  match hex4? cs with
  | some r => .ok r
  | none =>
    if byteCount cs < 4 then stopAt .endInString []
    else .error (.here .badEscape (byteCount cs - 4))

/-- Reads a character that has to follow the first half of a surrogate pair. -/
def readLink (c : Char) : List Char → Reading (List Char)
  | [] => stopAt .endInString []
  | d :: rest => if d = c then .ok rest else stopPast .surrogateWithoutEscape (d :: rest)

/-- Reads an escaped code point after its `u`; a first half of a surrogate pair needs the second
half behind it. -/
def readCodePoint (cs : List Char) : Reading (Taken Char) := do
  let (unit, rest) ← readHex4 cs
  if 0xDC00 ≤ unit && unit ≤ 0xDFFF then stopAt .loneSurrogate rest
  else if 0xD800 ≤ unit && unit ≤ 0xDBFF then
    let rest ← readLink '\\' rest
    let rest ← readLink 'u' rest
    let (second, rest) ← readHex4 rest
    if 0xDC00 ≤ second && second ≤ 0xDFFF then
      .ok (Char.ofNat (0x10000 + (unit - 0xD800) * 0x400 + (second - 0xDC00)), rest)
    else stopAt .loneSurrogate rest
  else .ok (Char.ofNat unit, rest)

/-- Reads an escape after its backslash. -/
def readEscape : List Char → Reading (Taken Char)
  | '\"' :: cs => .ok ('\"', cs)
  | '\\' :: cs => .ok ('\\', cs)
  | '/' :: cs => .ok ('/', cs)
  | 'b' :: cs => .ok ('\x08', cs)
  | 'f' :: cs => .ok ('\x0c', cs)
  | 'n' :: cs => .ok ('\n', cs)
  | 'r' :: cs => .ok ('\r', cs)
  | 't' :: cs => .ok ('\t', cs)
  | 'u' :: cs => readCodePoint cs
  | [] => stopAt .endInString []
  | cs => stopPast .badEscape cs

/-- Reads a string after its opening quotation mark; `seen` holds the characters read so far, the
last one first. Every step consumes a character, so the length of the text is fuel enough. -/
def readChars : Nat → List Char → List Char → Reading (Taken String)
  | 0, _, cs => stopAt .endInString cs
  | fuel + 1, seen, cs =>
    match cs with
    | [] => stopAt .endInString []
    | '\"' :: rest => .ok (String.ofList seen.reverse, rest)
    | '\\' :: rest =>
      match readEscape rest with
      | .ok (c, rest) => readChars fuel (c :: seen) rest
      | .error stop => .error stop
    | c :: rest =>
      if c.toNat < 0x20 then stopPast .controlInString cs else readChars fuel (c :: seen) rest

/-- Reads a string after its opening quotation mark. -/
def readString (cs : List Char) : Reading (Taken String) := readChars (cs.length + 1) [] cs

end ScopeMeter.Json

import ScopeMeter.Binary64.Shortest
import ScopeMeter.Json.Value

/-!
# Writing JSON

`Json.compact` writes a value on one line without spaces, `Json.pretty` one element or field a
line, indented by two spaces for each level; an empty array or object stays on its line.
-/

namespace ScopeMeter.Json

/-- The characters of a string between its quotation marks: what JSON requires to be escaped is,
and nothing else. -/
def escapeChar (c : Char) : List Char :=
  match c with
  | '\"' => ['\\', '\"']
  | '\\' => ['\\', '\\']
  | '\x08' => ['\\', 'b']
  | '\x0c' => ['\\', 'f']
  | '\n' => ['\\', 'n']
  | '\r' => ['\\', 'r']
  | '\t' => ['\\', 't']
  | c =>
    if c.toNat < 0x20 then
      ['\\', 'u', '0', '0'] ++ Nat.toDigits 16 (c.toNat / 16) ++ Nat.toDigits 16 (c.toNat % 16)
    else [c]

/-- A string with its quotation marks. -/
def stringText (s : String) : String :=
  String.ofList ('\"' :: s.toList.flatMap escapeChar ++ ['\"'])

/-- A double has a point or an exponent, and an exponent only below `10 ^ -5` and from `10 ^ 16`
on. -/
def realText (x : Binary64) : String :=
  if x.isZero then x.signed ['0', '.', '0']
  else
    let d := x.shortest
    if -5 ≤ d.exponent && d.exponent ≤ 15 then
      let text := d.positional
      x.signed (if text.contains '.' then text else text ++ ['.', '0'])
    else x.signed d.scientific

mutual

/-- The value on one line. -/
def compact : Json → String
  | .null => "null"
  | .bool b => if b then "true" else "false"
  | .int n => toString n
  | .real x => realText x
  | .str s => stringText s
  | .arr items => "[" ++ ",".intercalate (compactItems items) ++ "]"
  | .obj fields => "\x7b" ++ ",".intercalate (compactFields fields) ++ "\x7d"

def compactItems : List Json → List String
  | [] => []
  | v :: vs => compact v :: compactItems vs

def compactFields : List (String × Json) → List String
  | [] => []
  | (name, v) :: vs => (stringText name ++ ":" ++ compact v) :: compactFields vs

end

/-- The start of a line at a level. -/
def newLine (level : Nat) : String := "\n" ++ String.ofList (List.replicate (2 * level) ' ')

mutual

/-- The value with one element or field a line, at a level of indentation. -/
def prettyAt (level : Nat) : Json → String
  | .arr [] => "[]"
  | .arr (v :: vs) =>
    "[" ++ ",".intercalate (prettyItems (level + 1) (v :: vs)) ++ newLine level ++ "]"
  | .obj [] => "\x7b\x7d"
  | .obj (f :: fs) =>
    "\x7b" ++ ",".intercalate (prettyFields (level + 1) (f :: fs)) ++ newLine level ++ "\x7d"
  | .null => "null"
  | .bool b => if b then "true" else "false"
  | .int n => toString n
  | .real x => realText x
  | .str s => stringText s

def prettyItems (level : Nat) : List Json → List String
  | [] => []
  | v :: vs => (newLine level ++ prettyAt level v) :: prettyItems level vs

def prettyFields (level : Nat) : List (String × Json) → List String
  | [] => []
  | (name, v) :: vs =>
    (newLine level ++ stringText name ++ ": " ++ prettyAt level v) :: prettyFields level vs

end

/-- The value with one element or field a line. -/
def pretty (v : Json) : String := prettyAt 0 v

/-- The text of a file that holds a value. -/
def fileText (v : Json) : String := pretty v ++ "\n"

end ScopeMeter.Json

import ScopeMeter.Binary64.Shortest
import ScopeMeter.Json.Writer
import ScopeMeter.Text.Characters

/-!
# Faults of JSON texts

What is told about a text that is no JSON: the cause, and the place where it shows. A place is a
line, counted from one, and the number of bytes of that line up to it.
-/

namespace ScopeMeter.Json

/-- Names a value that stands where another kind of value is wanted. -/
def describe : Json → String
  | .null => "null"
  | .bool b => "boolean " ++ tick (if b then "true" else "false")
  | .int n => "integer " ++ tick (toString n)
  | .real x => "floating point " ++ tick (realText x)
  | .str s => "string " ++ Text.quoted s
  | .arr _ => "sequence"
  | .obj _ => "map"
where
  /-- A text between grave accents. -/
  tick (s : String) : String := "\x60" ++ s ++ "\x60"

/-- What is told about a value that stands in place of an embedded text. -/
def notTextMessage (found : Json) : String :=
  "invalid type: " ++ found.describe ++ ", expected raw value"

/-- Why a text is no JSON. -/
inductive Cause
  | endInArray
  | endInObject
  | endInString
  | endInValue
  | noColon
  | noCommaInArray
  | noCommaInObject
  | unknownWord
  | noValue
  | badEscape
  | badNumber
  /-- A number that no double can hold. -/
  | tooLarge
  | controlInString
  | nameNotString
  /-- The second half of a surrogate pair alone, or a first half before another code unit. -/
  | loneSurrogate
  /-- The first half of a surrogate pair without an escape behind it. -/
  | surrogateWithoutEscape
  | trailingComma
  | trailingText
  | tooDeep
  /-- A value in place of an embedded text. -/
  | notText (found : Json)
  deriving DecidableEq

def Cause.message : Cause → String
  | .endInArray => "EOF while parsing a list"
  | .endInObject => "EOF while parsing an object"
  | .endInString => "EOF while parsing a string"
  | .endInValue => "EOF while parsing a value"
  | .noColon => "expected " ++ describe.tick ":"
  | .noCommaInArray => "expected " ++ describe.tick "," ++ " or " ++ describe.tick "]"
  | .noCommaInObject => "expected " ++ describe.tick "," ++ " or " ++ describe.tick "\x7d"
  | .unknownWord => "expected ident"
  | .noValue => "expected value"
  | .badEscape => "invalid escape"
  | .badNumber => "invalid number"
  | .tooLarge => "number out of range"
  | .controlInString =>
    "control character (\\u0000-\\u001F) found while parsing a string"
  | .nameNotString => "key must be a string"
  | .loneSurrogate => "lone leading surrogate in hex escape"
  | .surrogateWithoutEscape => "unexpected end of hex escape"
  | .trailingComma => "trailing comma"
  | .trailingText => "trailing characters"
  | .tooDeep => "recursion limit exceeded"
  | .notText found => notTextMessage found

/-- Why a text is no JSON, and where that shows. -/
structure Fault where
  cause : Cause
  line : Nat
  column : Nat
  deriving DecidableEq

def Fault.message (f : Fault) : String :=
  f.cause.message ++ " at line " ++ toString f.line ++ " column " ++ toString f.column

/-- The number of bytes of a text. -/
def byteCount (cs : List Char) : Nat := cs.foldl (fun n c => n + c.utf8Size) 0

/-- The line and the column behind the first `count` bytes of a text that starts at a line and a
column; a count that ends within a character counts the bytes of its part. -/
def placeBehind (line column : Nat) : Nat → List Char → Nat × Nat
  | _, [] => (line, column)
  | count, c :: cs =>
    if count < c.utf8Size then (line, column + count)
    else if c = '\n' then placeBehind (line + 1) 0 (count - c.utf8Size) cs
    else placeBehind line (column + c.utf8Size) (count - c.utf8Size) cs

/-- The fault that shows in a text when `left` bytes are left of it. -/
def Fault.ofLeft (text : List Char) (cause : Cause) (left : Nat) : Fault :=
  let (line, column) := placeBehind 1 0 (byteCount text - left) text
  { cause, line, column }

end ScopeMeter.Json

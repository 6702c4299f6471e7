import ScopeMeter.Json.Fault

/-!
# Reading JSON: steps

A step of a reader takes something off the start of a text and hands on the rest, or stops. Where
it stops is told by what is left of the text.
-/

namespace ScopeMeter.Json

/-- Why a reader stops. -/
inductive Stop
  /-- For a cause that shows when this many bytes are left of the text. -/
  | here (cause : Cause) (left : Nat)
  /-- For a fault of a text that is embedded in the text. -/
  | inside (fault : Fault)
  deriving DecidableEq

/-- The fault of a text at which its reader stops. -/
def Stop.fault (text : List Char) : Stop → Fault
  | .here cause left => .ofLeft text cause left
  | .inside fault => fault

/-- What reading makes of a text, unless it stops. -/
abbrev Reading := Except Stop

/-- What a step takes off a text, with the rest of the text. -/
abbrev Taken (α : Type) := α × List Char

/-- Stops in front of the rest of the text. -/
def stopAt {α : Type} (cause : Cause) (rest : List Char) : Reading α :=
  .error (.here cause (byteCount rest))

/-- Stops behind the first byte of the rest of the text, or at its end. -/
def stopPast {α : Type} (cause : Cause) (rest : List Char) : Reading α :=
  .error (.here cause (byteCount rest - 1))

/-- Drops the white space of JSON. -/
def skipSpace : List Char → List Char
  | c :: cs => if c = ' ' || c = '\n' || c = '\t' || c = '\r' then skipSpace cs else c :: cs
  | [] => []

/-- Reads the rest of a word. -/
def readWord : List Char → List Char → Reading (List Char)
  | [], cs => .ok cs
  | _ :: _, [] => stopAt .endInValue []
  | w :: ws, c :: cs => if c = w then readWord ws cs else stopPast .unknownWord (c :: cs)

end ScopeMeter.Json

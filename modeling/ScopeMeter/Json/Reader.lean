import ScopeMeter.Json.Reader.Number
import ScopeMeter.Json.Reader.Text

/-!
# Reading JSON

`Json.read` reads a text that holds one JSON value and nothing else but white space around it.

* At most 127 arrays and objects stand inside one another.
* Of several fields of one name the last one counts.
* An object whose first field has the name `embeddingName` stands for the value of another JSON
  text, which that field holds as a string and which is read on its own. Such an object has no
  other field. Behind another field the name means nothing.
-/

namespace ScopeMeter.Json

/-- The name of the field that holds an embedded text. -/
def embeddingName : String := "$serde_json::private::RawValue"

/-! ## Plain values -/

/-- Reads a value that is no string, array or object, at its first character. -/
def readPlain : List Char → Reading (Taken Json)
  | [] => stopAt .endInValue []
  | 'n' :: cs => do return (.null, ← readWord ['u', 'l', 'l'] cs)
  | 't' :: cs => do return (.bool true, ← readWord ['r', 'u', 'e'] cs)
  | 'f' :: cs => do return (.bool false, ← readWord ['a', 'l', 's', 'e'] cs)
  | '-' :: cs => readUnsigned true cs
  | cs => if startsWithDigit cs then readUnsigned false cs else stopPast .noValue cs

/-! ## Arrays -/

/-- Reads the rest of an array behind an element; `seen` holds the elements read so far, the last
one first. -/
def readItems (item : List Char → Reading (Taken Json)) :
    Nat → List Json → List Char → Reading (Taken (List Json))
  | 0, _, cs => stopAt .endInArray cs
  | fuel + 1, seen, cs =>
    match skipSpace cs with
    | [] => stopAt .endInArray []
    | ']' :: rest => .ok (seen.reverse, rest)
    | ',' :: rest =>
      match skipSpace rest with
      | [] => stopAt .endInValue []
      | ']' :: rest => stopPast .trailingComma (']' :: rest)
      | rest =>
        match item rest with
        | .ok (v, rest) => readItems item fuel (v :: seen) rest
        | .error stop => .error stop
    | rest => stopPast .noCommaInArray rest

/-- Reads an array after its opening bracket. -/
def readArray (item : List Char → Reading (Taken Json)) (cs : List Char) :
    Reading (Taken Json) :=
  match skipSpace cs with
  | [] => stopAt .endInArray []
  | ']' :: rest => .ok (.arr [], rest)
  | cs => do
    let (v, rest) ← item cs
    let (items, rest) ← readItems item (rest.length + 1) [v] rest
    return (.arr items, rest)

/-! ## Objects -/

/-- Reads the name of a field and the colon behind it. -/
def readName : List Char → Reading (Taken String)
  | '\"' :: cs => do
    let (name, rest) ← readString cs
    match skipSpace rest with
    | [] => stopAt .endInObject []
    | ':' :: rest => return (name, rest)
    | rest => stopPast .noColon rest
  | cs => stopPast .nameNotString cs

/-- Reads the rest of an object behind a field; `seen` holds the fields read so far. -/
def readFields (item : List Char → Reading (Taken Json)) :
    Nat → Keyed Json → List Char → Reading (Taken (Keyed Json))
  | 0, _, cs => stopAt .endInObject cs
  | fuel + 1, seen, cs =>
    match skipSpace cs with
    | [] => stopAt .endInObject []
    | '\x7d' :: rest => .ok (seen, rest)
    | ',' :: rest =>
      match skipSpace rest with
      | [] => stopAt .endInValue []
      | '\x7d' :: rest => stopPast .trailingComma ('\x7d' :: rest)
      | rest =>
        match readName rest with
        | .ok (name, rest) =>
          match item (skipSpace rest) with
          | .ok (v, rest) => readFields item fuel (seen.insert name v) rest
          | .error stop => .error stop
        | .error stop => .error stop
    | rest => stopPast .noCommaInObject rest

/-- Reads the value of an embedded text, at the field's value. -/
def readEmbedded (embedded : String → Except Fault Json) : List Char → Reading (Taken Json)
  | '\"' :: cs => do
    let (text, rest) ← readString cs
    match embedded text with
    | .ok v => return (v, rest)
    | .error fault => .error (.inside fault)
  | '[' :: cs => stopAt (.notText (.arr [])) ('[' :: cs)
  | '\x7b' :: cs => stopAt (.notText (.obj [])) ('\x7b' :: cs)
  | cs => do
    let (found, rest) ← readPlain cs
    stopAt (.notText found) rest

/-- Reads the end of an object that holds an embedded text. -/
def readEmbeddingEnd (cs : List Char) : Reading (List Char) :=
  match skipSpace cs with
  | [] => stopAt .endInObject []
  | '\x7d' :: rest => .ok rest
  | ',' :: rest => stopPast .trailingComma (',' :: rest)
  | rest => stopPast .trailingText rest

/-- Reads an object after its opening brace. -/
def readObject (embedded : String → Except Fault Json)
    (item : List Char → Reading (Taken Json)) (cs : List Char) : Reading (Taken Json) :=
  match skipSpace cs with
  | [] => stopAt .endInObject []
  | '\x7d' :: rest => .ok (.obj [], rest)
  | cs => do
    let (name, rest) ← readName cs
    if name = embeddingName then
      let (v, rest) ← readEmbedded embedded (skipSpace rest)
      return (v, ← readEmbeddingEnd rest)
    else
      let (v, rest) ← item (skipSpace rest)
      let (fields, rest) ← readFields item (rest.length + 1) (Keyed.empty.insert name v) rest
      return (.ofKeyed fields, rest)

/-! ## Values and texts -/

/-- Reads a value that holds at most `depth` arrays and objects inside one another, at its first
character. -/
def readValue (embedded : String → Except Fault Json) : Nat → List Char → Reading (Taken Json)
  | depth, cs =>
    match cs with
    | '\"' :: rest => do
      let (s, rest) ← readString rest
      return (.str s, rest)
    | '[' :: rest =>
      match depth with
      | 0 => stopPast .tooDeep ('[' :: rest)
      | depth + 1 => readArray (readValue embedded depth) rest
    | '\x7b' :: rest =>
      match depth with
      | 0 => stopPast .tooDeep ('\x7b' :: rest)
      | depth + 1 => readObject embedded (readValue embedded depth) rest
    | cs => readPlain cs

/-- The deepest nesting of arrays and objects that is read. -/
def depthLimit : Nat := 127

/-- Reads a text that is one value. -/
def readAll (embedded : String → Except Fault Json) (cs : List Char) : Reading Json := do
  let (v, rest) ← readValue embedded depthLimit (skipSpace cs)
  match skipSpace rest with
  | [] => return v
  | rest => stopPast .trailingText rest

/-- Reads a text that is one value and in which texts are embedded in one another less than
`levels` times. -/
def readLevels : Nat → String → Except Fault Json
  | 0, text => .error (.ofLeft text.toList .tooDeep 0)
  | levels + 1, text =>
    match readAll (readLevels levels) text.toList with
    | .ok v => .ok v
    | .error stop => .error (stop.fault text.toList)

/-- Reads a text that is one value. An embedded text is shorter than the text around it, so the
length of the text is levels enough. -/
def read (text : String) : Except Fault Json := readLevels (text.length + 1) text

/-- Reads a text that is one value; `none` when it is not. -/
def read? (text : String) : Option Json := (read text).toOption

end ScopeMeter.Json

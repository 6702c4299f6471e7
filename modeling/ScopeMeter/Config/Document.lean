import ScopeMeter.Config.Entry
import ScopeMeter.Error

/-!
# Configuration documents

A configuration names a reserved counter set or lists the events to count. It is an object with
the fields `set`, `inherit`, `event` and `allthread`, or an array of these four in this order; any
of them may be missing. The events themselves are decoded later, one by one, so that a malformed
one does not spoil the others.
-/

namespace ScopeMeter

structure Config where
  /-- The number of a reserved counter set, which takes the place of the events. -/
  set : Option Int64 := none
  /-- Whether threads started later are counted along. -/
  inherit : Option Flag := none
  /-- The entries of the event list as they stand in the document, unpacked. -/
  events : List Json := []
  /-- Whether background threads are counted. -/
  allThread : Option Flag := none
  deriving DecidableEq

namespace Config

/-- Threads started later are counted along unless the document says otherwise. -/
def inherited (c : Config) : Bool := Flag.orElse c.inherit true

/-- Background threads are counted unless the document says otherwise, but in per-call mode only
if the document says so. -/
def countsBackground (c : Config) (perApi : Bool) : Bool := Flag.orElse c.allThread (!perApi)

/-- Decodes the number of a counter set. -/
def decodeSet : Json → Except DecodeFault (Option Int64)
  | .null => .ok none
  | .int n =>
    match Json.int64? (.int n) with
    | some v => .ok (some v)
    | none => .error (.outOfRange n)
  | v => .error (.wrongKind v .integer)

/-- Decodes a flag that may be null. -/
def decodeFlag : Json → Except DecodeFault (Option Flag)
  | .null => .ok none
  | v =>
    match Flag.ofJson? v with
    | some flag => .ok (some flag)
    | none => .error .notFlag

/-- Decodes the list of events, which may not be null. -/
def decodeEvents : Json → Except DecodeFault (List Json)
  | .arr items =>
    match Json.unpackItems items with
    | .ok items => .ok items
    | .error fault => .error (.packed fault)
  | v => .error (.wrongKind v .sequence)

/-- Decodes a field, or takes the default when it is missing. -/
def optional {α : Type} (decode : Json → Except DecodeFault α) (default : α) :
    Option Json → Except DecodeFault α
  | some v => decode v
  | none => .ok default

/-- Decodes an object; its fields are looked at in the order of their names. -/
def ofObject (v : Json) : Except DecodeFault Config := do
  let allThread ← optional decodeFlag none (v.field? "allthread")
  let events ← optional decodeEvents [] (v.field? "event")
  let inherit ← optional decodeFlag none (v.field? "inherit")
  let set ← optional decodeSet none (v.field? "set")
  return { set, inherit, events, allThread }

/-- Decodes an array; its elements are looked at in their order. -/
def ofArray (items : List Json) : Except DecodeFault Config := do
  let set ← optional decodeSet none items[0]?
  let inherit ← optional decodeFlag none items[1]?
  let events ← optional decodeEvents [] items[2]?
  let allThread ← optional decodeFlag none items[3]?
  if 4 < items.length then .error (.tooMany items.length)
  else return { set, inherit, events, allThread }

/-- Decodes a document; null is the document without fields. -/
def ofJson : Json → Except DecodeFault Config
  | .null => .ok {}
  | .arr items => ofArray items
  | .obj fields => ofObject (.obj fields)
  | v => .error (.wrongKind v .document)

/-- Decodes a document for the user. -/
def load (v : Json) : Except Error Config :=
  match ofJson v with
  | .ok c => .ok c
  | .error fault => .error (.config (.document fault))

/-- Reads and decodes the document in a file. -/
def ofFile (files : Files.Node) (path : String) : Except Error Config :=
  match files.readText path with
  | .error fault => .error (.file fault)
  | .ok text =>
    match Json.read? text with
    | some v => load v
    | none => .error .json

end Config

end ScopeMeter

import ScopeMeter.Counter.Event
import ScopeMeter.Interconnect.Descriptor
import ScopeMeter.Json.Value
import ScopeMeter.Notice

/-!
# Entries of the event list

An entry asks for one counter, or for one on each of several interconnect nodes. It is an object,
or an array of the fields in the order in which `Entry` lists them, where only the last may be
missing. Its fields that say yes or no are flags.
-/

namespace ScopeMeter

/-- A flag: a boolean, or an integer where zero means no and every other integer yes. -/
inductive Flag
  | bool (b : Bool)
  | int (n : Int64)
  deriving DecidableEq, Repr

namespace Flag

def enabled : Flag → Bool
  | .bool b => b
  | .int n => n != 0

/-- The flag that a value spells. -/
def ofJson? : Json → Option Flag
  | .bool b => some (.bool b)
  | v => v.int64?.map .int

/-- What a flag that may be missing says. -/
def orElse (flag : Option Flag) (default : Bool) : Bool := (flag.map enabled).getD default

end Flag

structure Entry where
  name : String
  /-- The code of the event within its family. -/
  config : UInt64
  /-- The counter family. -/
  type : Option UInt32 := none
  /-- The device whose family is to be looked up. -/
  rawDevice : Option String := none
  excludeUser : Option Flag := none
  excludeKernel : Option Flag := none
  /-- Whether a 64-bit counter is asked for. -/
  wide : Option Flag := none
  interconnect : Option Flag := none
  cspmu : Option Flag := none
  nodeType : Option String := none
  /-- Whether the nodes of the list are addressed one by one. -/
  byNodeId : Option Flag := none
  nodeIds : List UInt64 := []
  deriving DecidableEq

namespace Entry

/-- Decodes a text. -/
def text? : Json → Option String
  | .str s => some s
  | _ => none

/-- Decodes a natural number below a limit. -/
def natural? (limit : Nat) : Json → Option Nat
  | .int n => if 0 ≤ n ∧ n < limit then some n.toNat else none
  | _ => none

def word? (v : Json) : Option UInt64 := (natural? UInt64.size v).map UInt64.ofNat

def halfWord? (v : Json) : Option UInt32 := (natural? UInt32.size v).map UInt32.ofNat

/-- Decodes a list of words. -/
def words? : Json → Option (List UInt64)
  | .arr items => items.mapM word?
  | _ => none

/-- Decodes a field that may be null. -/
def nullable {α : Type} (decode : Json → Option α) : Json → Option (Option α)
  | .null => some none
  | v => (decode v).map some

/-- Decodes a field of an object that may be null or missing. -/
def optional {α : Type} (decode : Json → Option α) (v : Json) (name : String) :
    Option (Option α) :=
  match v.field? name with
  | some field => nullable decode field
  | none => some none

/-- Decodes the list of nodes, which may be missing but not null. -/
def nodes? : Option Json → Option (List UInt64)
  | some v => words? v
  | none => some []

/-- Decodes an object. -/
def ofObject? (v : Json) : Option Entry := do
  return {
    name := ← (v.field? "name").bind text?
    config := ← (v.field? "config").bind word?
    type := ← optional halfWord? v "type"
    rawDevice := ← optional text? v "device"
    excludeUser := ← optional Flag.ofJson? v "excludeUser"
    excludeKernel := ← optional Flag.ofJson? v "excludeKernel"
    wide := ← optional Flag.ofJson? v "counterLen64bit"
    interconnect := ← optional Flag.ofJson? v "booker-ci"
    cspmu := ← optional Flag.ofJson? v "CSPMU"
    nodeType := ← optional text? v "nodetype"
    byNodeId := ← optional Flag.ofJson? v "bynodeid"
    nodeIds := ← nodes? (v.field? "nodeid") }

/-- Decodes an array. -/
def ofArray? : List Json → Option Entry
  | name :: config :: type :: device :: excludeUser :: excludeKernel :: wide :: interconnect ::
      cspmu :: nodeType :: byNodeId :: rest => do
    if 1 < rest.length then none
    else return {
      name := ← text? name
      config := ← word? config
      type := ← nullable halfWord? type
      rawDevice := ← nullable text? device
      excludeUser := ← nullable Flag.ofJson? excludeUser
      excludeKernel := ← nullable Flag.ofJson? excludeKernel
      wide := ← nullable Flag.ofJson? wide
      interconnect := ← nullable Flag.ofJson? interconnect
      cspmu := ← nullable Flag.ofJson? cspmu
      nodeType := ← nullable text? nodeType
      byNodeId := ← nullable Flag.ofJson? byNodeId
      nodeIds := ← nodes? rest.head? }
  | _ => none

/-- Decodes an entry; `none` when it is malformed. -/
def ofJson? : Json → Option Entry
  | .arr items => ofArray? items
  | .obj fields => ofObject? (.obj fields)
  | _ => none

def width (e : Entry) : Width := if Flag.orElse e.wide false then .bits64 else .bits32

/-- The device whose family is to be looked up; the empty name is none. -/
def device (e : Entry) : Option String := e.rawDevice.filter fun d => !d.isEmpty

/-- The event of an entry on the default device. -/
def event (e : Entry) (inherited : Bool) : Event where
  name := e.name
  type := e.type.getD 0
  config := e.config
  excludeUser := Flag.orElse e.excludeUser false
  excludeKernel := Flag.orElse e.excludeKernel false
  width := e.width
  inherited
  interconnect := Flag.orElse e.interconnect false
  cspmu := Flag.orElse e.cspmu false

/-- The name of the event on one node. -/
def nodeEventName (name : String) (node : UInt64) : String :=
  name ++ "_node" ++ toString node.toNat

/-- The nodes that an entry addresses, each with the name of its event: those of the list one by
one, or all nodes of the type at once. -/
def targets (e : Entry) : List (String × Option UInt64) :=
  if Flag.orElse e.byNodeId false then
    e.nodeIds.map fun node => (nodeEventName e.name node, some node)
  else [(e.name, none)]

/-- The node type that an entry names; without a name it is the invalid one. -/
def nodeKind (e : Entry) : NodeType := NodeType.resolve (e.nodeType.getD " ")

/-- What a node of an entry is asked for. -/
def descriptor (e : Entry) (node : Option UInt64) : Descriptor :=
  .ofEvent e.nodeKind e.config node

/-- The events of an entry on the interconnect. -/
def nodeEvents (e : Entry) (inherited : Bool) : List Event :=
  e.targets.map fun t =>
    { e.event inherited with name := t.1, config := (e.descriptor t.2).toWord }

/-- What is noted about the descriptors of an entry. -/
def nodeNotices (e : Entry) : List Notice :=
  e.targets.filterMap fun t =>
    (e.descriptor t.2).fault?.map fun fault => .badDescriptor t.1 e.nodeType fault

end Entry

end ScopeMeter

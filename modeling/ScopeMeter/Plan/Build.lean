import ScopeMeter.Config.Document
import ScopeMeter.Config.Entry
import ScopeMeter.Counter.ReservedSet
import ScopeMeter.Device.Registry
import ScopeMeter.Plan.Basic
import ScopeMeter.Report.Merge

/-!
# From configurations to plans

A reserved set is the plan's only group. Otherwise the entries of the event list are taken one by
one: `Entry.place` says, for an entry alone, whether it is accepted and which events it asks for in
which group, and `Draft.add` puts these events behind what the entries before have asked for. An
event whose name its group already has is left out.
-/

namespace ScopeMeter

/-- The names that no event may have, because result entries use them. -/
def reservedNames : List String := [sumKey, threadKey, deviceKey]

/-- What entries are judged by besides their own text. -/
structure PlanContext where
  registry : Registry
  inherited : Bool
  /-- The width that the counters of the unit have, where only such counters may be used. -/
  requiredBits : Option Nat := none

/-- The events that an accepted entry asks for, by the group they belong to. -/
inductive Placement
  /-- An event of a coherent subsystem unit. -/
  | cspmu (device : String) (event : Event)
  /-- An event of a device that was looked up. -/
  | device (device : String) (event : Event)
  /-- Events of the interconnect, with what is noted about them. -/
  | interconnect (events : List Event) (notices : List Notice)
  /-- An event of the default device. -/
  | default (event : Event)
  deriving DecidableEq

namespace Entry

/-- The name of an event of a coherent subsystem unit. -/
def cspmuName (device name : String) : String := device ++ "_" ++ name

/-- The placement of an entry on a device whose family is known. -/
def placeOn (e : Entry) (inherited : Bool) (device : String) (type : UInt32) : Placement :=
  let event := { e.event inherited with type, device }
  if event.cspmu then .cspmu device { event with name := cspmuName device e.name }
  else .device device event

/-- The placement of an entry without a device. -/
def placeDefault (e : Entry) (inherited : Bool) : Placement :=
  let event := e.event inherited
  if event.interconnect then .interconnect (e.nodeEvents inherited) e.nodeNotices
  else .default event

/-- The width of an entry, if it is not the one that is required. -/
def mismatch? (e : Entry) (requiredBits : Option Nat) : Option Nat :=
  requiredBits.filter fun bits => e.width.bits != bits

/-- Places an entry, or tells why it is skipped. -/
def place (e : Entry) (context : PlanContext) : Except Notice Placement :=
  if e.name ∈ reservedNames then .error (.reservedName e.name)
  else if e.type.isNone && e.rawDevice.isNone then .error (.noCounterFamily e.name)
  else
    match e.mismatch? context.requiredBits with
    | some bits => .error (.widthMismatch e.name e.width.bits bits)
    | none =>
      match e.device with
      | none => .ok (e.placeDefault context.inherited)
      | some device =>
        match context.registry.resolve device with
        | .ok type => .ok (e.placeOn context.inherited device type)
        | .error error => .error (.deviceUnresolved e.name error)

end Entry

/-- Decodes and places the entry at a position of the event list. -/
def placeEntry (context : PlanContext) (index : Nat) (raw : Json) : Except Notice Placement :=
  match Entry.ofJson? raw with
  | some e => e.place context
  | none => .error (.malformedEntry index)

/-- A plan in the making. -/
structure Draft where
  plan : Plan
  /-- Whether the default group has got its leader. -/
  leaderPlaced : Bool := false
  notices : List Notice := []
  deriving DecidableEq

/-- Puts an event behind a group, unless the group has one of its name. -/
def addUnique (group : List Event) (event : Event) : List Event :=
  if group.any fun e => e.name = event.name then group else group ++ [event]

/-- What is noted when an event is put behind a group. -/
def duplicateNotice? (group : List Event) (event : Event) : Option Notice :=
  if group.any fun e => e.name = event.name then some (.duplicateEvent event.name) else none

/-- Puts several events behind a group, one by one. -/
def addAllUnique (group : List Event) : List Event → List Event × List Notice
  | [] => (group, [])
  | event :: events =>
    let (all, notices) := addAllUnique (addUnique group event) events
    (all, (duplicateNotice? group event).toList ++ notices)

/-- Puts events behind the group of a key. -/
def addUnder (groups : Keyed (List Event)) (key : String) (events : List Event) :
    Keyed (List Event) × List Notice :=
  let (all, notices) := addAllUnique ((groups.get? key).getD []) events
  (groups.insert key all, notices)

namespace Draft

/-- The default group with its leader, which comes before the first event of the group that has
no device of its own. -/
def withLeader (d : Draft) (width : Width) : Keyed (List Event) :=
  if d.leaderPlaced then d.plan.deviceEvents
  else
    d.plan.deviceEvents.update defaultDevice [] fun group =>
      group ++ [cycleLeader width d.plan.inherited]

/-- Adds what an entry asks for. -/
def add (d : Draft) : Placement → Draft
  | .cspmu device event =>
    let (cspmuEvents, notices) := addUnder d.plan.cspmuEvents device [event]
    { d with plan := { d.plan with cspmuEvents }, notices := d.notices ++ notices }
  | .device device event =>
    let (deviceEvents, notices) := addUnder d.plan.deviceEvents device [event]
    { d with plan := { d.plan with deviceEvents }, notices := d.notices ++ notices }
  | .interconnect events descriptorNotices =>
    let (interconnectEvents, notices) := addAllUnique d.plan.interconnectEvents events
    { d with
      plan := { d.plan with interconnectEvents }
      notices := d.notices ++ descriptorNotices ++ notices }
  | .default event =>
    let (deviceEvents, notices) := addUnder (d.withLeader event.width) defaultDevice [event]
    { plan := { d.plan with deviceEvents }
      leaderPlaced := true
      notices := d.notices ++ notices }

/-- Takes the entry at a position of the event list. -/
def take (context : PlanContext) (d : Draft) (entry : Json × Nat) : Draft :=
  match placeEntry context entry.2 entry.1 with
  | .ok placement => d.add placement
  | .error notice => { d with notices := d.notices ++ [notice] }

end Draft

/-- The plan of a configuration, and what is noted on the way. In per-call mode only events of the
width that the unit has are accepted, where that width is known. -/
def Config.plan (c : Config) (registry : Registry) (perApi : Bool) (pmuBits : Option Nat) :
    Plan × List Notice :=
  let blank : Plan := { allThread := c.countsBackground perApi, inherited := c.inherited }
  match c.set.bind fun number => ReservedSet.events? number c.inherited with
  | some events =>
    ({ blank with deviceEvents := Keyed.empty.insert defaultDevice events }, [])
  | none =>
    let context : PlanContext :=
      { registry, inherited := c.inherited, requiredBits := if perApi then pmuBits else none }
    let draft := c.events.zipIdx.foldl (Draft.take context) { plan := blank }
    (draft.plan, draft.notices)

end ScopeMeter

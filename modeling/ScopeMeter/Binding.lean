import ScopeMeter.Device.Class
import ScopeMeter.Group
import ScopeMeter.Report.Merge
import ScopeMeter.Scope.Accumulator

/-!
# Bindings

A binding is a counter group with what it is bound to, a thread or a whole device, and what it has
measured: a series for every event, which grows by one value a round, the sums of its scopes, and
for a coherent subsystem unit the clock samples of the rounds.
-/

namespace ScopeMeter

structure Binding where
  /-- The thread; `none` for a binding of a whole device. -/
  tid : Option Int32
  name : String
  role : Role
  device : DeviceClass
  eventNames : List String := []
  group : Group := {}
  results : SeriesMap := .empty
  scopes : Accumulator := {}
  /-- The mask of the open scope. -/
  scopeMask : Option ScopeMask := none
  clocks : List ClockSample := []
  deriving DecidableEq

namespace Binding

/-- The thread that the group follows; `none` when it counts for a whole device. -/
def boundTid (b : Binding) : Option Int32 := if b.device.isThreadBound then b.tid else none

/-- Whether a scope call reaches the binding, and then whether it comes from its own thread. -/
def route (b : Binding) (mask : ScopeMask) (tid : Int32) : Option Bool :=
  routeScope b.role b.boundTid mask tid

/-- Opens the group: for its thread on every processor, or for every thread on processor 0. -/
def init (b : Binding) (events : List Event) (h : Host) : Outcome Binding (Except Error Unit) :=
  let names := events.map (·.name)
  let (tid, cpu) := if b.device.isThreadBound then (b.tid, none) else (none, some 0)
  let opened := b.group.init events tid cpu h
  ⟨opened.result,
    { b with eventNames := names, scopes := .new events.length, group := opened.next },
    opened.host⟩

def start (b : Binding) (h : Host) : Except Error Unit × Host := b.group.start h

/-- Appends the sums of the scopes to the series and starts new sums. -/
def flushScopes (b : Binding) : Binding :=
  { b with
    results := b.scopes.flushInto b.eventNames b.results
    scopes := b.scopes.flushed b.eventNames }

/-- Stops counting and flushes the scopes, also when the group could not be stopped. -/
def stop (b : Binding) (h : Host) : Outcome Binding (Except Error Unit) :=
  let (stopped, h) := b.group.stop h
  ⟨stopped, { b with scopeMask := none }.flushScopes, h⟩

/-- Appends the values of a snapshot to the series of the events. -/
def addRound (b : Binding) (snap : Snapshot) : Binding :=
  { b with
    results := b.eventNames.zipIdx.foldl
      (fun m e => m.update e.1 {} fun s => s.push (snap.value e.2)) b.results }

/-- Samples the clock for a round of a coherent subsystem unit. -/
def addClock (b : Binding) (h : Host) : Binding × Host :=
  match b.device with
  | .cspmu _ =>
    match h.sampleClock with
    | (some sample, h) => ({ b with clocks := b.clocks ++ [sample] }, h)
    | (none, h) => ({ b with clocks := b.clocks ++ [.zero] }, h.note (.clockFailed .clock))
  | _ => (b, h)

/-- Reads and zeroes the group and appends one value to every series. When the read fails, zeros
are appended, so that all series stay equally long. -/
def collect (b : Binding) (now : Int64) (h : Host) : Outcome Binding (Except Error Unit) :=
  let read := b.group.collect now h
  let snap := match read.result with
    | .ok snap => snap
    | .error _ => .zeroed b.eventNames.length
  let (b, h) := ({ b with group := read.next }.addRound snap).addClock read.host
  ⟨read.result.map fun _ => (), b, h⟩

/-- Starts a scope. -/
def scopeStart (b : Binding) (id : UInt16) (mask : ScopeMask) (h : Host) :
    Outcome Binding (Except Error Unit) :=
  let read := b.group.collectScope id false h
  match read.result with
  | .error e => ⟨.error e, { b with group := read.next }, read.host⟩
  | .ok _ => ⟨.ok (), { b with group := read.next, scopeMask := some mask }, read.host⟩

/-- Adds one call of a scope to the sums. -/
def addScope (b : Binding) (id : UInt16) (isOwn : Bool) (start stop : Snapshot) (h : Host) :
    Binding × Host :=
  ({ b with scopes := b.scopes.record id isOwn start stop },
    h.noteAll (b.scopes.notice? id).toList)

/-- The fault of a stop whose mask is not the one of the open scope. -/
def maskFault? (b : Binding) (id : UInt16) (mask : ScopeMask) : Option ScopeFault :=
  match b.scopeMask with
  | some startMask => if startMask = mask then none else some (.otherMask id mask startMask)
  | none => none

/-- Stops a scope and adds what was counted within it to its sums. -/
def scopeStop (b : Binding) (id : UInt16) (mask : ScopeMask) (isOwn : Bool) (h : Host) :
    Outcome Binding (Except Error Unit) :=
  match b.maskFault? id mask with
  | some fault => ⟨.error (.scope fault), b, h⟩
  | none =>
    let start := b.group.scope.start
    let read := b.group.collectScope id true h
    match read.result with
    | .error e => ⟨.error e, { b with group := read.next }, read.host⟩
    | .ok stop =>
      let (b, h) := { b with group := read.next, scopeMask := none }.addScope id isOwn start stop
        read.host
      ⟨.ok (), b, h⟩

/-- Sums up every series. -/
def summarize (b : Binding) : Binding := { b with results := b.results.map Series.summarize }

/-- Forgets the series and the clock samples. -/
def clear (b : Binding) : Binding := { b with results := .empty, clocks := [] }

/-- Closes the group and forgets all that was measured. -/
def deinit (b : Binding) (h : Host) : Binding × Host :=
  let (group, h) := b.group.deinit h
  ({ b with group, scopes := {}, scopeMask := none }.clear, h)

end Binding

end ScopeMeter

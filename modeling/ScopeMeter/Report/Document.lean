import ScopeMeter.Binding

/-!
# Result documents

The result document lists what every binding has measured, each binding under the name of its
thread, and the sums over groups of bindings: over the bindings of the workload, of the
interconnect and of the coherent subsystem units; and, when background threads are counted, over
those, and over all together.
-/

namespace ScopeMeter

/-- The groups of bindings that are summed up. -/
inductive Aggregate
  | replay
  | background
  | all
  deriving DecidableEq, Repr

namespace Aggregate

def list : List Aggregate := [replay, background, all]

def name : Aggregate → String
  | replay => "replayMainThreads"
  | background => "backgroundThreads"
  | all => "allThreads"

/-- The entry of a group before any binding is added. -/
def entry (a : Aggregate) : Keyed Json := Keyed.empty.insert threadKey (.str a.name)

end Aggregate

namespace Report

/-- The device that an entry names; the default one and the interconnect are not named. -/
def deviceName? : DeviceClass → Option String
  | .pmu device | .cspmu device => some device
  | .single | .interconnect => none

/-- The entry of a binding. -/
def bindingEntry (b : Binding) : Keyed Json :=
  let named := Keyed.empty.insert threadKey (.str b.name)
  let placed := match deviceName? b.device with
    | some device => named.insert deviceKey (.str device)
    | none => named
  merge placed b.results

/-- The clock samples of a binding. -/
def clockEntry (b : Binding) : Keyed Json :=
  (Keyed.empty.insert (b.device.label ++ "_sec") (.ofSeries (b.clocks.map (·.sec)))).insert
    (b.device.label ++ "_nsec") (.ofSeries (b.clocks.map (·.nsec)))

/-- The entries of one binding: its own, and for a coherent subsystem unit its clock samples. -/
def bindingEntries (b : Binding) : List (Keyed Json) :=
  bindingEntry b :: if b.role = .cspmu then [clockEntry b] else []

/-- The entry of a group of bindings. -/
def aggregateEntry (start : Keyed Json) (bindings : List Binding) : Keyed Json :=
  bindings.foldl (fun entry b => merge entry b.results) start

/-- The bindings of a role. -/
def ofRole (bindings : List Binding) (role : Role) : List Binding :=
  bindings.filter fun b => b.role = role

/-- The bindings that are not background, in the order of the document. -/
def foreground (bindings : List Binding) : List Binding :=
  ofRole bindings .replay ++ ofRole bindings .cspmu ++ ofRole bindings .interconnect

/-- The entries about all but background bindings. -/
def foregroundEntries (bindings : List Binding) : List (Keyed Json) :=
  (foreground bindings).flatMap bindingEntries ++
    [aggregateEntry Aggregate.replay.entry (foreground bindings)]

/-- The entries that follow when background threads are counted. -/
def backgroundEntries (bindings : List Binding) : List (Keyed Json) :=
  let background := ofRole bindings .background
  let all := (aggregateEntry Aggregate.replay.entry (foreground bindings)).insert threadKey
    (.str Aggregate.all.name)
  background.map bindingEntry ++
    [aggregateEntry Aggregate.background.entry background, aggregateEntry all background]

/-- The entries of the document. -/
def entries (allThread : Bool) (bindings : List Binding) : List (Keyed Json) :=
  foregroundEntries bindings ++ if allThread then backgroundEntries bindings else []

/-- The document. -/
def document (allThread summarized : Bool) (bindings : List Binding) : Json :=
  let data := .arr ((entries allThread bindings).map Json.ofKeyed)
  let fields := Keyed.empty.insert "thread_data" data
  .ofKeyed (if summarized then fields.insert "summarized" (.bool true) else fields)

end Report

end ScopeMeter

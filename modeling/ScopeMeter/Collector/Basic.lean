import ScopeMeter.Gauges
import ScopeMeter.Plan.Build
import ScopeMeter.Plan.Discovery
import ScopeMeter.Report.Document

/-!
# Collectors

A collector takes a configuration through its life: it opens the groups of all bindings, starts
and stops them together, collects rounds and scopes, and makes the result document. Its calls tell
whether they succeeded; what went wrong is noted.
-/

namespace ScopeMeter

inductive EngineState
  | uninitialized
  | initialized
  | started
  | stopped
  deriving DecidableEq, Repr

def EngineState.name : EngineState → String
  | .uninitialized => "uninitialized"
  | .initialized => "initialized"
  | .started => "started"
  | .stopped => "stopped"

/-- Where a collector runs: the files it reads and the process it belongs to. -/
structure Site where
  files : Files.Node
  /-- The directory of the device registry. -/
  deviceDir : String
  /-- The directory of the threads. -/
  taskDir : String
  processName : String
  pid : Int32 := 4242

def Site.registry (s : Site) : Registry := ⟨s.files, s.deviceDir⟩

structure Collector where
  name : String
  /-- The configuration document. -/
  config : Json
  /-- Whether the collector runs in per-call mode. -/
  perApi : Bool := false
  state : EngineState := .uninitialized
  plan : Plan := {}
  /-- Whether rounds and scopes are taken. -/
  collecting : Bool := false
  /-- Whether series were summed up since they were last cleared. -/
  summarized : Bool := false
  bindings : List Binding := []
  /-- The latest result document. -/
  result : Json := .null
  deriving DecidableEq

namespace Collector

/-- Opens the groups of bindings one after the other. When one fails, that is noted and all are
closed. -/
def openAll (plan : Plan) (opened : List Binding) :
    List BindingSpec → Host → Except Error (List Binding) × Host
  | [], h => (.ok opened, h)
  | spec :: specs, h =>
    let step := spec.binding.init (plan.eventsFor spec.device) h
    match step.result with
    | .ok () => openAll plan (opened ++ [step.next]) specs step.host
    | .error e =>
      let h := step.host.note (.openFailed spec.name spec.device.label e)
      (.error e, h.closeAll (opened.flatMap fun b => b.group.handles))

/-- Makes the plan and opens the groups of its bindings. -/
def prepare (c : Collector) (site : Site) (h : Host) :
    Except Error (Plan × List Binding) × Host :=
  match Config.load c.config with
  | .error e => (.error e, h)
  | .ok config =>
    let (plan, notices) := config.plan site.registry c.perApi none
    let h := h.noteAll (notices ++ if plan.isEmpty then [.noEvents c.name] else [])
    match plan.discover site.files site.taskDir site.processName with
    | .error e => (.error e, h)
    | .ok specs =>
      match openAll plan [] specs h with
      | (.ok bindings, h) => (.ok (plan, bindings), h)
      | (.error e, h) => (.error e, h)

/-- Prepares the collector, unless it is prepared already. -/
def init (c : Collector) (site : Site) (h : Host) : Outcome Collector Bool :=
  if c.state = .uninitialized then
    match c.prepare site h with
    | (.ok (plan, bindings), h) => ⟨true, { c with plan, bindings, state := .initialized }, h⟩
    | (.error e, h) => ⟨false, c, h.note (.initFailed c.name e)⟩
  else ⟨false, c, h.note (.alreadyInitialized c.name)⟩

/-- Closes every group. -/
def closeBindings (bindings : List Binding) (h : Host) : Host :=
  bindings.foldl (fun h b => (b.deinit h).2) h

/-- Closes every group and forgets all that was measured. -/
def deinit (c : Collector) (h : Host) : Outcome Collector Bool :=
  ⟨true, { name := c.name, config := c.config, perApi := c.perApi }, closeBindings c.bindings h⟩

/-- Performs an operation on each binding. Failures are noted, and the other bindings are gone
through all the same; the result tells whether there were none. -/
def sweep (op : Binding → Host → Outcome Binding (Except Error Unit))
    (notice : Binding → Error → Notice) : List Binding → Host → Outcome (List Binding) Bool
  | [], h => ⟨true, [], h⟩
  | b :: bs, h =>
    let step := op b h
    match step.result with
    | .ok () =>
      let rest := sweep op notice bs step.host
      ⟨rest.result, step.next :: rest.next, rest.host⟩
    | .error e =>
      let rest := sweep op notice bs (step.host.note (notice step.next e))
      ⟨false, step.next :: rest.next, rest.host⟩

/-- Stops every binding. -/
def stopAll : List Binding → Host → Outcome (List Binding) Bool :=
  sweep Binding.stop fun b e => .stopFailed b.name e

/-- Starts bindings one after the other. When one fails, that is noted and those started before it
are stopped again. -/
def startAll (started : List Binding) : List Binding → Host → Outcome (List Binding) Bool
  | [], h => ⟨true, started, h⟩
  | b :: bs, h =>
    match b.start h with
    | (.ok (), h) => startAll (started ++ [b]) bs h
    | (.error e, h) =>
      let back := stopAll started (h.note (.startFailed b.name e))
      ⟨false, back.next ++ b :: bs, back.host⟩

/-- Starts counting. -/
def start (c : Collector) (h : Host) : Outcome Collector Bool :=
  match c.state with
  | .started => ⟨true, c, h⟩
  | .uninitialized => ⟨false, c, h.note (.startedBeforeInit c.name)⟩
  | .initialized | .stopped =>
    let step := startAll [] c.bindings h
    if step.result then
      ⟨true, { c with bindings := step.next, state := .started, collecting := true }, step.host⟩
    else ⟨false, { c with bindings := step.next }, step.host⟩

/-- Stops counting, if the collector is started. -/
def stop (c : Collector) (h : Host) : Outcome Collector Bool :=
  if c.state = .started then
    let step := stopAll c.bindings h
    ⟨true, { c with bindings := step.next, state := .stopped, collecting := false }, step.host⟩
  else ⟨true, c, h⟩

/-- Takes a round. -/
def collect (c : Collector) (now : Int64) (h : Host) : Outcome Collector Bool :=
  if c.collecting then
    let step := sweep (fun b => b.collect now) (fun b e => .readFailed b.name e) c.bindings h
    ⟨step.result, { c with bindings := step.next }, step.host⟩
  else ⟨false, c, h⟩

/-- Hands a scope call to a binding if it reaches it. -/
def scopeStep (call : ScopeCall) (id : UInt16) (mask : ScopeMask) (tid : Int32) (b : Binding)
    (h : Host) : Outcome Binding (Except Error Unit) :=
  match b.route mask tid with
  | none => ⟨.ok (), b, h⟩
  | some isOwn =>
    match call with
    | .start => b.scopeStart id mask h
    | .stop => b.scopeStop id mask isOwn h

/-- Hands a scope call from a thread to every binding that it reaches. -/
def scope (c : Collector) (call : ScopeCall) (id : UInt16) (mask : ScopeMask) (tid : Int32)
    (h : Host) : Outcome Collector Bool :=
  if c.collecting then
    let step := sweep (scopeStep call id mask tid)
      (fun b e => .scopeFailed call id b.name b.device.label e) c.bindings h
    ⟨step.result, { c with bindings := step.next }, step.host⟩
  else ⟨false, c, h⟩

/-- Forgets what was measured, unless rounds are being taken. -/
def clear (c : Collector) : Collector :=
  if c.collecting then c
  else { c with bindings := c.bindings.map Binding.clear, summarized := false, result := .null }

/-- Sums up every series. -/
def summarize (c : Collector) : Collector :=
  { c with bindings := c.bindings.map Binding.summarize, summarized := true }

/-- Makes the result document. -/
def postprocess (c : Collector) : Collector :=
  { c with result := Report.document c.plan.allThread c.summarized c.bindings }

/-- Closes what is still open when the collector is given up. -/
def drop (c : Collector) (h : Host) : Host :=
  if c.state = .uninitialized then h else closeBindings c.bindings h

/-- Publishes the latest round of every binding to gauges known by a mark. -/
def observeBy {κ : Type} [DecidableEq κ] (mark : GaugeLabels → κ) (c : Collector)
    (gauges : Gauges) : Gauges :=
  c.bindings.foldl (Gauges.observeBy mark) gauges

/-- Publishes the latest round of every binding. -/
def observe (c : Collector) (gauges : Gauges) : Gauges := c.observeBy GaugeLabels.fingerprint gauges

end Collector

end ScopeMeter

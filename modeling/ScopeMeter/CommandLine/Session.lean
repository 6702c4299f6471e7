import ScopeMeter.Collector.Export
import ScopeMeter.CommandLine.Arguments

/-!
# Sessions of the command line

A session loads the configuration, starts the workload threads, takes its rounds and writes the
results. It runs on a machine that opens no counters, so it succeeds only if the configuration
asks for none.
-/

namespace ScopeMeter.CommandLine

/-- What a session leaves behind. -/
structure Run where
  /-- The exit code. -/
  code : Nat
  output : String := ""
  errorOutput : String := ""
  files : Files.Node

/-- Why a session ended early. -/
inductive SessionFault
  | unreadable (path : String)
  | notJson (path : String)
  | notInitialized (name : String)
  | notStarted (name : String)
  | notWritten (error : Error)
  | directory (fault : Files.Fault)
  deriving DecidableEq

def SessionFault.message : SessionFault → String
  | .unreadable path => "failed to read " ++ path
  | .notJson path => "invalid JSON in " ++ path
  | .notInitialized name => "failed to initialize collector " ++ name
  | .notStarted name => "failed to start collector " ++ name
  | .notWritten error => error.message
  | .directory fault => fault.message

/-- The configuration without a file: the first reserved set. -/
def defaultConfig : Json := .obj [("set", .int 0)]

/-- Loads the configuration. -/
def loadConfig (path : Option String) (files : Files.Node) : Except SessionFault Json :=
  match path with
  | none => .ok defaultConfig
  | some path =>
    match files.readText path with
    | .error _ => .error (.unreadable path)
    | .ok text =>
      match Json.read? text with
      | some v => .ok v
      | none => .error (.notJson path)

/-- The name of the process. -/
def processName : String := "perfscope"

/-- The number of the process in a session. -/
def processId : Nat := 4242

/-- The directory of a thread. -/
def taskEntry (tid : Nat) (name : String) : String × Files.Node :=
  (toString tid, .dir [("comm", .file (some (name ++ "\n")))])

/-- The directories of the threads of a session: its own and those with a workload. -/
def taskEntries (workers : Nat) : List (String × Files.Node) :=
  taskEntry processId processName ::
    (List.range workers).map fun i =>
      taskEntry (processId + 1 + i) (Thread.replayStart ++ toString i)

/-- Where a session runs: it has threads but no devices. -/
def site (workers : Nat) : Site where
  files := .dir [("proc", .dir [("self", .dir [("task", .dir (taskEntries workers))])])]
  deviceDir := "/sys/devices"
  taskDir := "/proc/self/task"
  processName := processName
  pid := Int32.ofNat processId

/-- Whether the series are summed up after a round. -/
def summarizesAfter (every : Option Nat) (round : Nat) : Bool :=
  match every with
  | some n => 0 < n && round % n = 0
  | none => false

/-- Takes the round with a number. -/
def takeRound (a : Arguments) (step : Collector × Host) (round : Nat) : Collector × Host :=
  let now := Int64.ofNat (round * (max a.intervalMs 1) * 1000)
  let taken := step.1.collect now step.2
  (if summarizesAfter a.summarizeEvery round then taken.next.summarize else taken.next, taken.host)

/-- Takes all rounds and stops. -/
def takeRounds (a : Arguments) (c : Collector) (h : Host) : Collector :=
  let (c, h) := ((List.range a.rounds).map (· + 1)).foldl (takeRound a) (c, h)
  (c.stop h).next.postprocess

/-- Collects the results. -/
def measure (a : Arguments) (config : Json) : Except SessionFault Collector :=
  let c : Collector := { name := a.name, config, perApi := a.perApi }
  let opened := c.init (site a.workers) .withoutCounters
  if opened.result then
    let started := opened.next.start opened.host
    if started.result then .ok (takeRounds a started.next started.host)
    else .error (.notStarted a.name)
  else .error (.notInitialized a.name)

/-- Writes the document and the tables to the files that are asked for. -/
def exportResults (a : Arguments) (c : Collector) (files : Files.Node) :
    Except SessionFault Unit × Files.Node :=
  let (written, files) := match a.output with
    | some path => c.writeDocument path files
    | none => (.ok (), files)
  match written with
  | .error e => (.error (.notWritten e), files)
  | .ok () =>
    match a.csvDir with
    | none => (.ok (), files)
    | some dir =>
      match files.makeDirs dir with
      | (.error fault, files) => (.error (.directory fault), files)
      | (.ok (), files) =>
        match c.writeTables (Int32.ofNat processId) dir files with
        | (.error e, files) => (.error (.notWritten e), files)
        | (.ok (), files) => (.ok (), files)

/-- A session that ends with a fault. -/
def failed (fault : SessionFault) (files : Files.Node) : Run :=
  { code := 1, errorOutput := "Error: " ++ fault.message ++ "\n", files }

/-- A session with given arguments. The document is printed unless a file is asked for. -/
def session (a : Arguments) (files : Files.Node) : Run :=
  match (loadConfig a.config files).bind (measure a) with
  | .error fault => failed fault files
  | .ok c =>
    match exportResults a c files with
    | (.error fault, files) => failed fault files
    | (.ok (), files) =>
      { code := 0, output := if a.output.isNone then c.result.fileText else "", files }

/-- Runs the command line. -/
def run (arguments : List String) (files : Files.Node) : Run :=
  match Arguments.ofList arguments with
  | .ok a => session a files
  | .error .help => { code := 0, output := helpText, files }
  | .error (.usage fault) => { code := 2, errorOutput := fault.message ++ "\n", files }

end ScopeMeter.CommandLine

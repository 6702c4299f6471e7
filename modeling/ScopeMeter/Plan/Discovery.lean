import ScopeMeter.Binding
import ScopeMeter.Plan.Basic
import ScopeMeter.Thread.Listing

/-!
# Which bindings a plan needs

Coherent subsystem units count for the whole machine: if the plan has events for them, there is
one binding for each unit and nothing else. Otherwise every thread of the workload gets a binding
for each device key, then every background thread if they are counted, and the interconnect one at
last.
-/

namespace ScopeMeter

/-- A binding to be made. -/
structure BindingSpec where
  tid : Option Int32
  name : String
  role : Role
  device : DeviceClass
  deriving DecidableEq, Repr

/-- The binding before its group is opened. -/
def BindingSpec.binding (s : BindingSpec) : Binding := { s with }

namespace Thread

/-- How the names of the threads of the workload start. -/
def replayStart : String := "patrace-"

/-- How the names of background threads start. -/
def backgroundStarts : List String := ["mali-", "ANGLE-"]

def isReplay (name : String) : Bool := name.startsWith replayStart

def isBackground (name : String) : Bool := backgroundStarts.any fun start => name.startsWith start

/-- The role of a thread; `none` when it is not counted. -/
def role? (t : Thread) (allThread : Bool) : Option Role :=
  if isReplay t.name then some .replay
  else if allThread && isBackground t.name then some .background
  else none

end Thread

namespace Plan

/-- The bindings of one thread in a role, one for each device key. -/
def threadSpecs (p : Plan) (role : Role) (t : Thread) : List BindingSpec :=
  p.deviceEvents.keys.map fun key => ⟨some t.tid, t.name, role, .ofKey key⟩

/-- The bindings of the threads that have a role. -/
def roleSpecs (p : Plan) (threads : List Thread) (role : Role) : List BindingSpec :=
  (threads.filter fun t => t.role? p.allThread = some role).flatMap (p.threadSpecs role)

/-- The bindings of the coherent subsystem units. -/
def cspmuSpecs (p : Plan) (process : String) : List BindingSpec :=
  p.cspmuEvents.keys.map fun device => ⟨none, process, .cspmu, .cspmu device⟩

/-- The binding of the interconnect, if it has events. -/
def interconnectSpecs (p : Plan) (process : String) : List BindingSpec :=
  if p.interconnectEvents.isEmpty then [] else [⟨none, process, .interconnect, .interconnect⟩]

/-- The bindings of a plan, given the threads and the name of the process. -/
def bindingSpecs (p : Plan) (threads : List Thread) (process : String) : List BindingSpec :=
  if p.cspmuEvents.isEmpty then
    p.roleSpecs threads .replay ++ p.roleSpecs threads .background ++ p.interconnectSpecs process
  else p.cspmuSpecs process

/-- The bindings of a plan for the threads of a task directory, which is looked at only if there
are no events of coherent subsystem units. -/
def discover (p : Plan) (files : Files.Node) (taskDir process : String) :
    Except Error (List BindingSpec) :=
  if p.cspmuEvents.isEmpty then
    match Thread.list files taskDir with
    | .ok threads => .ok (p.bindingSpecs threads process)
    | .error fault => .error (.file fault)
  else .ok (p.bindingSpecs [] process)

end Plan

end ScopeMeter

import ScopeMeter.Counter.Event
import ScopeMeter.Device.Class
import ScopeMeter.Keyed

/-!
# Event plans

A plan sorts the requested counters into the groups that will be opened: for each thread one group
a device key, one group for the interconnect, and one for each coherent subsystem unit.
-/

namespace ScopeMeter

@[ext]
structure Plan where
  /-- The groups of threads by device key. -/
  deviceEvents : Keyed (List Event) := .empty
  interconnectEvents : List Event := []
  /-- The groups of coherent subsystem units by device. -/
  cspmuEvents : Keyed (List Event) := .empty
  /-- Whether background threads are counted. -/
  allThread : Bool := false
  /-- Whether threads started later are counted along. -/
  inherited : Bool := false
  deriving DecidableEq

namespace Plan

instance : Inhabited Plan := ⟨{}⟩

def isEmpty (p : Plan) : Bool :=
  p.deviceEvents.isEmpty && p.interconnectEvents.isEmpty && p.cspmuEvents.isEmpty

/-- The events that a binding of a class opens. -/
def eventsFor (p : Plan) : DeviceClass → List Event
  | .single => (p.deviceEvents.get? defaultDevice).getD []
  | .pmu device => (p.deviceEvents.get? device).getD []
  | .cspmu device => (p.cspmuEvents.get? device).getD []
  | .interconnect => p.interconnectEvents

end Plan

end ScopeMeter

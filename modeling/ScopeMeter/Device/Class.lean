import ScopeMeter.Counter.Event

/-!
# Device classes

The class of a binding says which unit counts for it. Groups of the default CPU unit and of
per-cluster units follow a thread; coherent subsystem units and the interconnect count for the
whole machine.
-/

namespace ScopeMeter

inductive DeviceClass
  /-- The default CPU unit. -/
  | single
  /-- A per-cluster unit. -/
  | pmu (device : String)
  /-- A coherent subsystem unit. -/
  | cspmu (device : String)
  /-- The coherent interconnect. -/
  | interconnect
  deriving DecidableEq, Repr

namespace DeviceClass

/-- The class of a thread's group with a device key. -/
def ofKey (device : String) : DeviceClass :=
  if device = defaultDevice then .single else .pmu device

def label : DeviceClass → String
  | .single => defaultDevice
  | .pmu device => device
  | .cspmu device => device
  | .interconnect => "booker-ci"

def isThreadBound : DeviceClass → Bool
  | .single | .pmu _ => true
  | .cspmu _ | .interconnect => false

end DeviceClass

end ScopeMeter

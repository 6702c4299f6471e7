/-!
# Requested counters

An `Event` is one counter that the configuration asks for, `Attributes` what the kernel is told
when it is opened. A counter of the hardware is 32 or 64 bits wide.
-/

namespace ScopeMeter

/-- How many bits an event counter of the hardware has. -/
inductive Width
  | bits32
  | bits64
  deriving DecidableEq, Repr, Inhabited

namespace Width

def bits : Width → Nat
  | .bits32 => 32
  | .bits64 => 64

/-- The width with so many bits. -/
def ofBits? : Nat → Option Width
  | 32 => some .bits32
  | 64 => some .bits64
  | _ => none

theorem ofBits?_bits (w : Width) : ofBits? w.bits = some w := by cases w <;> rfl

end Width

/-- What the kernel is told about a counter. -/
structure Attributes where
  /-- The counter family. -/
  type : UInt32
  /-- The code of the event within its family. -/
  config : UInt64
  /-- Whether a 64-bit hardware counter is asked for. -/
  wide : Bool := false
  inherit : Bool := false
  excludeUser : Bool := false
  excludeKernel : Bool := false
  deriving DecidableEq, Repr

/-- The family of generalized hardware events. -/
def hardwareType : UInt32 := 0

/-- The family of raw hardware codes. -/
def rawType : UInt32 := 4

/-- A generalized hardware event. -/
def Attributes.hardware (config : UInt64) : Attributes := { type := hardwareType, config }

/-- The device key of the events that the default CPU unit counts. -/
def defaultDevice : String := "single"

/-- One requested counter. -/
structure Event where
  /-- The name of the event and of its result series. -/
  name : String
  type : UInt32
  config : UInt64
  excludeUser : Bool := false
  excludeKernel : Bool := false
  width : Width := .bits32
  inherited : Bool := true
  /-- The device key: `defaultDevice` or the name of a unit. -/
  device : String := defaultDevice
  /-- Whether the event describes a node of the interconnect. -/
  interconnect : Bool := false
  /-- Whether the event is counted by a coherent subsystem unit. -/
  cspmu : Bool := false
  deriving DecidableEq, Repr

namespace Event

def isDefaultDevice (e : Event) : Bool := e.device = defaultDevice

/-- What the kernel is told when the event is opened. -/
def attributes (e : Event) : Attributes where
  type := e.type
  config := e.config
  wide := e.width = .bits64
  inherit := e.inherited
  excludeUser := e.excludeUser
  excludeKernel := e.excludeKernel

end Event

end ScopeMeter

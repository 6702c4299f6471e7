import ScopeMeter.Counter.Event

/-!
# Reserved counter sets

Four sets of events have numbers. Set 0 holds generalized hardware events that every machine
counts; sets 1 to 3 hold raw codes of Arm cores. Every set is led by the cycle counter.
-/

namespace ScopeMeter

/-- An event of a reserved set. -/
structure SetEvent where
  name : String
  type : UInt32
  config : UInt64
  deriving DecidableEq, Repr

namespace ReservedSet

def generalized (name : String) (config : UInt64) : SetEvent := ⟨name, hardwareType, config⟩

def raw (name : String) (config : UInt64) : SetEvent := ⟨name, rawType, config⟩

def set0 : List SetEvent :=
  [generalized "CPUInstructionRetired" 1, generalized "CPUCacheReferences" 2,
   generalized "CPUCacheMisses" 3, generalized "CPUBranchMispredictions" 5]

def set1 : List SetEvent :=
  [raw "CPUInstructionRetired" 0x08, raw "CPUL1CacheAccesses" 0x04,
   raw "CPUL2CacheAccesses" 0x16, raw "CPULASESpec" 0x74, raw "CPUVFPSpec" 0x75,
   raw "CPUCryptoSpec" 0x77]

def set2 : List SetEvent :=
  [raw "CPUL3CacheAccesses" 0x2B, raw "CPUBusAccessRead" 0x60, raw "CPUBusAccessWrite" 0x61,
   raw "CPUMemoryAccessRead" 0x66, raw "CPUMemoryAccessWrite" 0x67]

def set3 : List SetEvent :=
  [raw "CPUBusAccesses" 0x19, raw "CPUL2CacheRead" 0x50, raw "CPUL2CacheWrite" 0x51,
   raw "CPUMemoryAccessRead" 0x66, raw "CPUMemoryAccessWrite" 0x67]

/-- The table of a set; only the numbers 0 to 3 have one. -/
def table? (number : Int64) : Option (List SetEvent) :=
  if number = 0 then some set0
  else if number = 1 then some set1
  else if number = 2 then some set2
  else if number = 3 then some set3
  else none

end ReservedSet

/-- The name of the cycle counter that leads a group. -/
def cycleLeaderName : String := "CPUCycleCount"

/-- The cycle counter that leads the groups of the default device. -/
def cycleLeader (width : Width) (inherited : Bool) : Event :=
  { name := cycleLeaderName, type := hardwareType, config := 0, width, inherited }

/-- The cycle counter followed by the events of a reserved set. -/
def ReservedSet.events? (number : Int64) (inherited : Bool) : Option (List Event) :=
  (ReservedSet.table? number).map fun table =>
    cycleLeader .bits32 inherited ::
      table.map fun e => { name := e.name, type := e.type, config := e.config, inherited }

end ScopeMeter

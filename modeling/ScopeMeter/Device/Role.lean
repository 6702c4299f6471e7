/-!
# Roles and scope masks

The role of a binding says why it exists. A scope call carries a mask of roles and reaches the
bindings whose role is in the mask: of a binding that follows a thread only the calls that come
from that thread.
-/

namespace ScopeMeter

inductive Role
  /-- A thread that runs the measured workload. -/
  | replay
  /-- A thread of the graphics driver or the compositor. -/
  | background
  /-- The interconnect, for the whole process. -/
  | interconnect
  /-- A coherent subsystem unit. -/
  | cspmu
  deriving DecidableEq, Repr

namespace Role

def all : List Role := [replay, background, interconnect, cspmu]

def name : Role → String
  | replay => "replay"
  | background => "background"
  | interconnect => "interconnect"
  | cspmu => "cspmu"

end Role

/-- A set of roles; bits that belong to no role are kept. -/
structure ScopeMask where
  bits : UInt32
  deriving DecidableEq, Repr

namespace ScopeMask

/-- The mask of one role. -/
def ofRole : Role → ScopeMask
  | .replay => ⟨1⟩
  | .background => ⟨2⟩
  | .interconnect => ⟨4⟩
  | .cspmu => ⟨8⟩

/-- The roles of threads. -/
def allThreads : ScopeMask := ⟨3⟩

/-- All roles. -/
def known : ScopeMask := ⟨15⟩

/-- Whether two masks have a bit in common. -/
def intersects (a b : ScopeMask) : Bool := a.bits &&& b.bits != 0

/-- Whether every bit of `b` is in `a`. -/
def contains (a b : ScopeMask) : Bool := a.bits &&& b.bits = b.bits

/-- The mask without the bits that belong to no role. -/
def truncated (m : ScopeMask) : ScopeMask := ⟨m.bits &&& known.bits⟩

/-- Whether every bit belongs to a role. -/
def isKnown (m : ScopeMask) : Bool := known.contains m

end ScopeMask

/-- Whether a scope call from thread `tid` reaches a binding that follows thread `bound`, or no
thread: `some` when it does, and then whether the caller is the thread of the binding. -/
def routeScope (role : Role) (bound : Option Int32) (mask : ScopeMask) (tid : Int32) :
    Option Bool :=
  if mask.intersects (.ofRole role) then
    match bound with
    | some own => if own = tid then some true else none
    | none => some false
  else none

end ScopeMeter

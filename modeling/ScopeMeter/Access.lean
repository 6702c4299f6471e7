import ScopeMeter.Counter.Event

/-!
# Direct access to the counting unit

A program may read the counters of the unit without asking the kernel when the kernel has set
three bits of an access register. A platform that has no such register counts through the kernel
only (`Platform.kernelOnly`). Groups and collectors count on such a platform: a scope reads its
whole group, whatever the width of the counters, and counting goes on meanwhile.
-/

namespace ScopeMeter

inductive UserAccess
  | granted
  /-- The register has at least one of the needed bits clear. -/
  | denied (register : UInt64)
  /-- The platform has no access register. -/
  | unsupported
  deriving DecidableEq, Repr

namespace UserAccess

/-- The bits that direct access needs: enable, cycle counter and event counters. -/
def requiredBits : UInt64 := 0xD

/-- What the value of the access register allows. -/
def ofRegister (value : UInt64) : UserAccess :=
  if value &&& requiredBits = requiredBits then .granted else .denied value

end UserAccess

/-- What a platform offers besides the counters of the kernel. -/
structure Platform where
  direct : Bool
  pmuBits : Option Nat
  cycles : Width → Option UInt64
  access : UserAccess

/-- A platform that offers nothing: every count is read through the kernel. -/
def Platform.kernelOnly : Platform where
  direct := false
  pmuBits := none
  cycles := fun _ => none
  access := .unsupported

end ScopeMeter

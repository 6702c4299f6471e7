import ScopeMeter.Device.Role
import ScopeMeter.Text.Numbers

/-!
# Violations of the scope protocol

A scope is started and stopped by the same number and the same mask, and no other scope is started
in between.
-/

namespace ScopeMeter

inductive ScopeFault
  /-- A scope was started inside another one. -/
  | nestedStart (id opened : UInt16)
  /-- A scope was stopped while another one was open. -/
  | otherOpen (id opened : UInt16)
  /-- A scope was stopped while none was open. -/
  | notStarted (id : UInt16)
  /-- A scope was stopped with another mask than it was started with. -/
  | otherMask (id : UInt16) (mask startMask : ScopeMask)
  deriving DecidableEq, Repr

def ScopeFault.message : ScopeFault → String
  | .nestedStart id opened =>
    "start of scope " ++ toString id.toNat ++ " while scope " ++ toString opened.toNat ++
      " is still open"
  | .otherOpen id opened =>
    "stop of scope " ++ toString id.toNat ++ " does not match open scope " ++
      toString opened.toNat
  | .notStarted id =>
    "could not find the collect_scope_start call for scope " ++ toString id.toNat
  | .otherMask id mask startMask =>
    "stop of scope " ++ toString id.toNat ++ " with mask 0x" ++
      Text.hexLower mask.bits.toNat ++ " does not match start mask 0x" ++
      Text.hexLower startMask.bits.toNat

end ScopeMeter

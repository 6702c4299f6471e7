import ScopeMeter.Config.DecodeFault
import ScopeMeter.Files.Tree
import ScopeMeter.Host.CallFault
import ScopeMeter.Scope.Fault
import ScopeMeter.Text.Numbers

/-!
# Errors

Everything that can go wrong, by its cause. `Error.message` is what the user is told.
-/

namespace ScopeMeter

/-- Why a configuration cannot be used. -/
inductive ConfigFault
  | document (fault : DecodeFault)
  /-- A group without events. -/
  | noEvents
  /-- A group of more events than a group may hold. -/
  | tooManyEvents (count limit : Nat)
  deriving DecidableEq

def ConfigFault.message : ConfigFault → String
  | .document fault => "invalid perf configuration: " ++ fault.message
  | .noEvents => "counter group needs at least one event"
  | .tooManyEvents count limit =>
    toString count ++ " events exceed the group limit of " ++ toString limit

/-- Why the type of a device is not known. -/
inductive DeviceFault
  | unreadable (fault : Files.Fault)
  | notNumber (fault : Decimal.Fault)
  deriving DecidableEq, Repr

def DeviceFault.message : DeviceFault → String
  | .unreadable fault => fault.message
  | .notNumber fault => fault.message

/-- Why an operation does not fit the state of a group. -/
inductive StateFault
  | groupOpen
  | groupNotOpen
  deriving DecidableEq, Repr

def StateFault.message : StateFault → String
  | .groupOpen => "counter group must be released before it is reopened"
  | .groupNotOpen => "counter group is not open"

inductive Error
  | config (fault : ConfigFault)
  | device (name path : String) (fault : DeviceFault)
  | counterOpen (name : String) (fault : CallFault)
  | call (fault : CallFault)
  | scope (fault : ScopeFault)
  | state (fault : StateFault)
  /-- Direct access is denied by this value of the access register. -/
  | accessDenied (register : UInt64)
  /-- No clock sample could be taken. -/
  | clock
  | file (fault : Files.Fault)
  | json
  | table (fault : Files.Fault)
  deriving DecidableEq

def Error.message : Error → String
  | .config fault => "Configuration error: " ++ fault.message
  | .device name path fault =>
    "Device " ++ name ++ " could not be resolved: " ++ path ++ ": " ++ fault.message
  | .counterOpen name fault => "Failed to open counter " ++ name ++ ": " ++ fault.message
  | .call fault => "perf_event operation failed: " ++ fault.message
  | .scope fault => "Scope protocol violation: " ++ fault.message
  | .state fault => "Invalid engine state: " ++ fault.message
  | .accessDenied register =>
    "User-space PMU access is disabled (PMUSERENR = 0x" ++
      Text.hexPadded 8 register.toNat ++ ")"
  | .clock => "Nix error: EINVAL: Invalid argument"
  | .file fault => "IO error: " ++ fault.message
  | .json => "JSON error"
  | .table fault => "CSV error: " ++ fault.message

end ScopeMeter

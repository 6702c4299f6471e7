import ScopeMeter.Errno
import ScopeMeter.Text.Numbers

/-!
# Failed kernel calls

The calls that program counters, and what is told when one of them fails.
-/

namespace ScopeMeter

/-- A control call on a group of counters. -/
inductive Control
  /-- Sets every count to zero. -/
  | reset
  /-- Starts counting. -/
  | enable
  /-- Stops counting. -/
  | disable
  deriving DecidableEq, Repr

def Control.name : Control → String
  | .reset => "RESET"
  | .enable => "ENABLE"
  | .disable => "DISABLE"

/-- Why a kernel call on a counter failed. -/
inductive CallFault
  | openFailed (type : UInt32) (config : UInt64) (tid cpu : Int32) (number : Errno)
  | controlFailed (control : Control) (handle : Nat) (number : Errno)
  | readFailed (handle : Nat) (number : Errno)
  /-- A read returned fewer bytes than the count of values takes. -/
  | shortRead (handle bytes : Nat)
  deriving DecidableEq, Repr

def CallFault.message : CallFault → String
  | .openFailed type config tid cpu number =>
    "perf_event_open failed for type " ++ toString type.toNat ++ " config 0x" ++
      Text.hexUpper config.toNat ++ " (tid " ++ toString tid.toInt ++ ", cpu " ++
      toString cpu.toInt ++ "): " ++ number.message
  | .controlFailed control handle number =>
    "perf ioctl " ++ control.name ++ " failed on fd " ++ toString handle ++ ": " ++ number.message
  | .readFailed handle number =>
    "Failed to read counter group on fd " ++ toString handle ++ ": " ++ number.message
  | .shortRead handle bytes =>
    "Short read on counter group fd " ++ toString handle ++ ": " ++ toString bytes ++ " bytes"

end ScopeMeter

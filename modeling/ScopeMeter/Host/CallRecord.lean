import ScopeMeter.Counter.Event
import ScopeMeter.Host.CallFault

/-!
# Records of kernel calls

Each call on a counter leaves a record of what was asked and how it ended.
-/

namespace ScopeMeter

inductive CallRecord
  /-- A counter was opened as a member of a group, or as the leader of a new one. -/
  | opened (attributes : Attributes) (tid cpu : Int32) (group : Option Nat) (handle : Nat)
  | refused (attributes : Attributes) (tid cpu : Int32) (group : Option Nat) (number : Errno)
  | controlled (control : Control) (handle : Nat) (failure : Option Errno)
  | read (handle : Nat) (failure : Option Errno)
  deriving DecidableEq

namespace CallRecord

/-- The error number of a failed call. -/
def failure? : CallRecord → Option Errno
  | opened .. => none
  | refused _ _ _ _ number => some number
  | controlled _ _ failure => failure
  | read _ failure => failure

/-- A flag as a digit. -/
def bit (b : Bool) : String := if b then "1" else "0"

/-- The end of the line of a failed call. -/
def failureText : Option Errno → String
  | some number => " -> errno " ++ toString number
  | none => ""

/-- What was asked when a counter was opened. -/
def openText (a : Attributes) (tid cpu : Int32) (group : Option Nat) : String :=
  "open type=" ++ toString a.type.toNat ++ " config=" ++ toString a.config.toNat ++
    " config1=" ++ bit a.wide ++ " inherit=" ++ bit a.inherit ++ " xuser=" ++
    bit a.excludeUser ++ " xkernel=" ++ bit a.excludeKernel ++ " tid=" ++
    toString tid.toInt ++ " cpu=" ++ toString cpu.toInt ++ " group=" ++
    (match group with | some leader => toString leader | none => "-1")

/-- The record on one line. -/
def text : CallRecord → String
  | opened a tid cpu group handle => openText a tid cpu group ++ " -> " ++ toString handle
  | refused a tid cpu group number => openText a tid cpu group ++ failureText (some number)
  | controlled control handle failure =>
    control.name ++ " " ++ toString handle ++ failureText failure
  | read handle failure => "read " ++ toString handle ++ failureText failure

end CallRecord

end ScopeMeter

import ScopeMeter.Error
import ScopeMeter.Interconnect.Descriptor

/-!
# Notices

What is noted while the program runs: warnings about what was left out or did not work, and errors
that ended an operation. `Notice.text` is the noted line.
-/

namespace ScopeMeter

/-- Whether a scope call starts or stops a scope. -/
inductive ScopeCall
  | start
  | stop
  deriving DecidableEq, Repr

def ScopeCall.name : ScopeCall → String
  | .start => "collect_scope_start"
  | .stop => "collect_scope_stop"

inductive Notice
  /-- An entry of the event list is malformed. -/
  | malformedEntry (index : Nat)
  | reservedName (event : String)
  | noCounterFamily (event : String)
  | widthMismatch (event : String) (bits pmuBits : Nat)
  | deviceUnresolved (event : String) (error : Error)
  | badDescriptor (event : String) (nodeType : Option String) (fault : Descriptor.Fault)
  | duplicateEvent (event : String)
  /-- A read of a group returned another number of values than the group has counters. -/
  | valueCount (found : UInt64) (expected : Nat)
  | resetFailed (now : Int64) (fault : CallFault)
  | scopeOverflow (id : UInt16) (lastSlot : Nat)
  | clockFailed (error : Error)
  | noEvents (collector : String)
  | alreadyInitialized (collector : String)
  | startedBeforeInit (collector : String)
  | openFailed (binding device : String) (error : Error)
  | initFailed (collector : String) (error : Error)
  | startFailed (binding : String) (error : Error)
  | stopFailed (binding : String) (error : Error)
  | readFailed (binding : String) (error : Error)
  | scopeFailed (call : ScopeCall) (id : UInt16) (binding device : String) (error : Error)
  deriving DecidableEq

namespace Notice

/-- Whether the notice is an error; otherwise it is a warning. -/
def isError : Notice → Bool
  | openFailed .. | initFailed .. | startFailed .. | readFailed .. => true
  | _ => false

/-- How the configured name of a node type is shown. -/
def optionText : Option String → String
  | some s => "Some(" ++ Text.quoted s ++ ")"
  | none => "None"

def message : Notice → String
  | malformedEntry index => "Skipping perf event #" ++ toString index
  | reservedName event => "Perf event name " ++ event ++ " is reserved, skipped"
  | noCounterFamily event =>
    "Perf event " ++ event ++ " specifies neither type nor device, skipped"
  | widthMismatch event bits pmuBits =>
    "Perf event " ++ event ++ " is " ++ toString bits ++ " bit but the PMU counts " ++
      toString pmuBits ++ " bit, skipped"
  | deviceUnresolved event error =>
    "Perf event " ++ event ++ " skipped: " ++ error.message
  | badDescriptor event nodeType fault =>
    "Interconnect event " ++ event ++ " (" ++ optionText nodeType ++ "): " ++ fault.message
  | duplicateEvent event => "Duplicate perf event " ++ event ++ " skipped"
  | valueCount found expected =>
    "Counter group returned " ++ toString found.toNat ++ " values, expected " ++
      toString expected
  | resetFailed now fault =>
    "Counter reset after collect at " ++ toString now.toInt ++ " failed: " ++ fault.message
  | scopeOverflow id lastSlot =>
    "Scope id " ++ toString id.toNat ++ " exceeds " ++ toString lastSlot ++
      ", accumulating into the overflow slot"
  | clockFailed error => "Failed to sample CLOCK_MONOTONIC_RAW: " ++ error.message
  | noEvents collector => "No perf events configured for " ++ collector
  | alreadyInitialized collector =>
    "Perf collector " ++ collector ++ " is already initialized"
  | startedBeforeInit collector => "Perf collector " ++ collector ++ " started before init"
  | openFailed binding device error =>
    "Failed to open counters for " ++ binding ++ " (" ++ device ++ "): " ++ error.message
  | initFailed collector error =>
    "Failed to initialize perf collector " ++ collector ++ ": " ++ error.message
  | startFailed binding error =>
    "Failed to start counters for " ++ binding ++ ": " ++ error.message
  | stopFailed binding error =>
    "Failed to stop counters for " ++ binding ++ ": " ++ error.message
  | readFailed binding error =>
    "Failed to read counters for " ++ binding ++ ": " ++ error.message
  | scopeFailed call id binding device error =>
    call.name ++ "(" ++ toString id.toNat ++ ") on " ++ binding ++ " [" ++ device ++
      "] failed: " ++ error.message

/-- The noted line, its severity first. -/
def text (n : Notice) : String := (if n.isError then "ERROR " else "WARN ") ++ n.message

end Notice

end ScopeMeter

import ScopeMeter.Scope.Fault
import ScopeMeter.Snapshot

/-!
# Pairing of scope calls

Of each group at most one scope is open. A tracker knows the open scope and the snapshot taken
when it was started; when the counters are zeroed in between, that snapshot moves along, so that
the difference at the stop still covers the whole scope.
-/

namespace ScopeMeter

structure Tracker where
  opened : Option UInt16 := none
  /-- The snapshot of the latest start. -/
  start : Snapshot := .empty
  /-- Whether that snapshot was read from the group and moves when the group is zeroed. -/
  fromGroup : Bool := false
  deriving DecidableEq

namespace Tracker

/-- Whether a scope may be started or stopped now. -/
def check (t : Tracker) (id : UInt16) (isStop : Bool) : Except ScopeFault Unit :=
  match t.opened, isStop with
  | none, false => .ok ()
  | none, true => .error (.notStarted id)
  | some opened, false => .error (.nestedStart id opened)
  | some opened, true => if opened = id then .ok () else .error (.otherOpen id opened)

/-- Takes note of a start with its snapshot, or of a stop. -/
def record (t : Tracker) (id : UInt16) (isStop : Bool) (snap : Snapshot) (fromGroup : Bool) :
    Tracker :=
  if isStop then { t with opened := none }
  else { opened := some id, start := snap, fromGroup }

/-- Takes note that the group was zeroed right after `read` was taken. -/
def rebase (t : Tracker) (read : Snapshot) : Tracker :=
  if t.opened.isSome && t.fromGroup then { t with start := t.start.rebased read } else t

end Tracker

end ScopeMeter

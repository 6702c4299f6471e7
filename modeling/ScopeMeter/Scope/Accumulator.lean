import ScopeMeter.Notice
import ScopeMeter.Series
import ScopeMeter.Snapshot

/-!
# Sums of scopes

An accumulator adds up what the counters advanced by within scopes, scope number by scope number.
Numbers from 1023 on share the last of 1024 slots. It also counts the calls of a scope in which
the counters advanced at all, and those among them made by the thread that the counters follow.
-/

namespace ScopeMeter

/-- The number of slots. -/
def scopeSlots : Nat := 1024

/-- The slot that large scope numbers share. -/
def overflowSlot : Nat := scopeSlots - 1

/-- The names of the series that an accumulator is flushed into. -/
def scopeSumName (event : String) : String := event ++ ":ScopeSum"

def scopeCallsName : String := "CCthread:ScopeNumCalls"

def scopeOwnCallsName : String := "CCthread:ScopeNumWithPerf"

/-- Adds to one slot of an array that grows as needed. -/
def addToSlot (slots : List Int64) (slot : Nat) (amount : Int64) : List Int64 :=
  (slots ++ List.replicate (slot + 1 - slots.length) 0).modify slot (· + amount)

structure Accumulator where
  /-- For each counter its sums by slot. -/
  sums : List (List Int64) := []
  /-- By slot the calls in which the counters advanced. -/
  calls : List Int64 := []
  /-- By slot the calls among them made by the counters' own thread. -/
  ownCalls : List Int64 := []
  /-- Whether a shared slot was noted already. -/
  overflowNoted : Bool := false
  deriving DecidableEq, Repr

namespace Accumulator

/-- An accumulator for so many counters. -/
def new (counters : Nat) : Accumulator := { sums := List.replicate counters [] }

def slot (id : UInt16) : Nat := min id.toNat overflowSlot

/-- What the counters advanced by between two snapshots. -/
def deltas (counters : Nat) (start stop : Snapshot) : List Int64 :=
  (List.range counters).map fun i => stop.value i - start.value i

/-- Adds one call of a scope. -/
def record (a : Accumulator) (id : UInt16) (isOwn : Bool) (start stop : Snapshot) :
    Accumulator :=
  let s := slot id
  let advanced := deltas a.sums.length start stop
  let counted := 0 < wrappingSum advanced
  { sums := a.sums.zipWith (fun slots delta => addToSlot slots s delta) advanced
    calls := addToSlot a.calls s (if counted then 1 else 0)
    ownCalls := addToSlot a.ownCalls s (if counted && isOwn then 1 else 0)
    overflowNoted := a.overflowNoted || overflowSlot < id.toNat }

/-- What is noted when a call is added: the first number without a slot of its own. -/
def notice? (a : Accumulator) (id : UInt16) : Option Notice :=
  if overflowSlot < id.toNat && !a.overflowNoted then some (.scopeOverflow id overflowSlot)
  else none

/-- The sum of a counter over the calls of a scope. -/
def sum (a : Accumulator) (counter : Nat) (id : UInt16) : Int64 :=
  ((a.sums[counter]?.getD [])[slot id]?).getD 0

def callCount (a : Accumulator) (id : UInt16) : Int64 := (a.calls[slot id]?).getD 0

def ownCallCount (a : Accumulator) (id : UInt16) : Int64 := (a.ownCalls[slot id]?).getD 0

def isEmpty (a : Accumulator) : Bool := a.calls.isEmpty && a.sums.all List.isEmpty

/-- Appends values to a series; without values no series comes into being. -/
def appendTo (results : SeriesMap) (name : String) (values : List Int64) : SeriesMap :=
  if values.isEmpty then results else results.update name {} fun s => s.append values

/-- The arrays with the names of the series they go to. -/
def arrays (a : Accumulator) (names : List String) : List (String × List Int64) :=
  (names.zip a.sums).map (fun e => (scopeSumName e.1, e.2)) ++
    [(scopeCallsName, a.calls), (scopeOwnCallsName, a.ownCalls)]

/-- The series with the arrays appended to them. -/
def flushInto (a : Accumulator) (names : List String) (results : SeriesMap) : SeriesMap :=
  (a.arrays names).foldl (fun m e => appendTo m e.1 e.2) results

/-- The accumulator after its arrays were flushed: those of counters with a name start over. -/
def flushed (a : Accumulator) (names : List String) : Accumulator :=
  { sums := (a.sums.take names.length).map (fun _ => []) ++ a.sums.drop names.length
    calls := []
    ownCalls := []
    overflowNoted := a.overflowNoted }

end Accumulator

end ScopeMeter

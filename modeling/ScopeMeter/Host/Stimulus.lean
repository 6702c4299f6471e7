import ScopeMeter.Host.Basic

/-!
# What happens to a machine from outside

Counters advance while the threads they follow run, the clock goes on, and faults come up.
-/

namespace ScopeMeter.Host

/-- Hands values to the counters of a group one by one, in the order in which they were opened;
counters behind the last value stay as they are. -/
def feed (f : UInt64 → UInt64 → UInt64) (leader : Nat) :
    List LiveCounter → List UInt64 → List LiveCounter
  | [], _ => []
  | cs, [] => cs
  | c :: cs, v :: vs =>
    if c.leader = leader then { c with value := f c.value v } :: feed f leader cs vs
    else c :: feed f leader cs (v :: vs)

/-- The leaders of the groups that follow a thread, and of a counter family if one is given. -/
def leadersOf (h : Host) (tid : Int32) (type : Option UInt32) : List LiveCounter :=
  h.counters.filter fun c => c.handle = c.leader && c.tid = tid && type.all (· = c.type)

/-- The counting groups of a thread advance, each counter by its part. -/
def tick (h : Host) (tid : Int32) (type : Option UInt32) (amounts : List UInt64) : Host :=
  { h with
    counters := ((h.leadersOf tid type).filter (·.enabled)).foldl
      (fun cs leader => feed (· + ·) leader.handle cs amounts) h.counters }

/-- The groups of a thread are set to given values. -/
def poke (h : Host) (tid : Int32) (type : Option UInt32) (values : List UInt64) : Host :=
  { h with
    counters := (h.leadersOf tid type).foldl
      (fun cs leader => feed (fun _ v => v) leader.handle cs values) h.counters }

/-- The clock will give these samples behind the ones it has. -/
def addClock (h : Host) (samples : List ClockSample) : Host :=
  { h with clock := h.clock ++ samples }

/-- A fault is planned behind the others. -/
def addFault (h : Host) (rule : FaultRule) : Host := { h with faults := h.faults ++ [rule] }

end ScopeMeter.Host

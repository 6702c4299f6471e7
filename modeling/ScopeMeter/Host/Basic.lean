import ScopeMeter.Host.CallRecord
import ScopeMeter.Host.Fault
import ScopeMeter.Host.ReadAnswer
import ScopeMeter.Notice

/-!
# The machine that counts

A `Host` is the machine as far as counting goes: the live counters of its kernel in the order in
which they were opened, the faults it has in store, the samples its clock will give, and the
records of the calls and notices so far. A group is the live counters with one leader; control
calls and reads on the leader are about the whole group.
-/

namespace ScopeMeter

/-- A counter of the kernel. -/
structure LiveCounter where
  handle : Nat
  /-- The handle of the group's leader. -/
  leader : Nat
  tid : Int32
  type : UInt32
  config : UInt64
  value : UInt64 := 0
  enabled : Bool := false
  deriving DecidableEq, Repr

def LiveCounter.subject (c : LiveCounter) : Subject := ⟨c.tid, c.type, c.config⟩

/-- A sample of the raw monotonic clock in seconds and nanoseconds. -/
structure ClockSample where
  sec : Int64
  nsec : Int64
  deriving DecidableEq, Repr

namespace ClockSample

/-- The sample that stands in for one that could not be taken. -/
def zero : ClockSample := ⟨0, 0⟩

/-- The sample in nanoseconds. -/
def nanoseconds (c : ClockSample) : Int := c.sec.toInt * 1000000000 + c.nsec.toInt

end ClockSample

structure Host where
  counters : List LiveCounter := []
  nextHandle : Nat := 1000
  faults : List FaultRule := []
  clock : List ClockSample := []
  trace : List CallRecord := []
  log : List Notice := []
  deriving DecidableEq

namespace Host

instance : Inhabited Host := ⟨{}⟩

/-- Notes something. -/
def note (h : Host) (n : Notice) : Host := { h with log := h.log ++ [n] }

/-- Notes several things. -/
def noteAll (h : Host) (ns : List Notice) : Host := { h with log := h.log ++ ns }

/-- Records a call. -/
def record (h : Host) (r : CallRecord) : Host := { h with trace := h.trace ++ [r] }

/-- The live counter with a handle. -/
def find? (h : Host) (handle : Nat) : Option LiveCounter :=
  h.counters.find? fun c => c.handle = handle

/-- The live counters of a group, in the order in which they were opened. -/
def group (h : Host) (leader : Nat) : List LiveCounter :=
  h.counters.filter fun c => c.leader = leader

/-- Applies `f` to the counters of a group. -/
def updateGroup (h : Host) (leader : Nat) (f : LiveCounter → LiveCounter) : Host :=
  { h with counters := h.counters.map fun c => if c.leader = leader then f c else c }

/-- Meets a call about a counter with the planned faults. -/
def fire (h : Host) (call : CallKind) (subject : Subject) : Option FaultEffect × Host :=
  let (effect, faults) := FaultRule.fire call subject h.faults
  (effect, { h with faults })

/-- The counter that a call on a handle is about. -/
def subjectOf (h : Host) (handle : Nat) : Subject :=
  match h.find? handle with
  | some c => c.subject
  | none => ⟨-1, 0, 0⟩

/-- Opens a counter, not counting yet, as a member of the group of a leader or as a new leader.
A `tid` of -1 counts every thread on one `cpu`, a `cpu` of -1 one thread on every `cpu`. -/
def openCounter (h : Host) (a : Attributes) (tid cpu : Int32) (leader : Option Nat) :
    Except CallFault Nat × Host :=
  match h.fire .opening ⟨tid, a.type, a.config⟩ with
  | (some (.fail number), h) =>
    (.error (.openFailed a.type a.config tid cpu number),
      h.record (.refused a tid cpu leader number))
  | (_, h) =>
    let handle := h.nextHandle
    let counter : LiveCounter :=
      { handle, leader := leader.getD handle, tid, type := a.type, config := a.config }
    (.ok handle,
      { h with counters := h.counters ++ [counter], nextHandle := handle + 1 }.record
        (.opened a tid cpu leader handle))

/-- What a control call does to each counter of the group. -/
def applyControl (control : Control) (c : LiveCounter) : LiveCounter :=
  match control with
  | .reset => { c with value := 0 }
  | .enable => { c with enabled := true }
  | .disable => { c with enabled := false }

/-- Makes a control call on a group. -/
def control (h : Host) (control : Control) (leader : Nat) : Except CallFault Unit × Host :=
  match h.fire (.control control) (h.subjectOf leader) with
  | (some (.fail number), h) =>
    (.error (.controlFailed control leader number),
      h.record (.controlled control leader (some number)))
  | (_, h) =>
    (.ok (), (h.updateGroup leader (applyControl control)).record
      (.controlled control leader none))

/-- Reads a group in one call. An answer that does not fit the buffer, cut as a planned fault may
have cut it, cannot be read. -/
def readRaw (h : Host) (leader : Nat) : Except Errno ReadAnswer × Host :=
  let (effect, h) := h.fire .reading (h.subjectOf leader)
  match effect with
  | some (.fail number) => (.error number, h.record (.read leader (some number)))
  | effect =>
    let (cut, claim) := match effect with
      | some (.distort bytes count) => (bytes, count)
      | _ => (none, none)
    let values := (h.group leader).map (·.value)
    let size := 8 * (values.length + 1)
    let bytes := min (cut.getD size) size
    if 8 * readBufferWords < bytes then
      (.error .noSpace, h.record (.read leader (some .noSpace)))
    else
      (.ok { bytes, words := claim.getD (UInt64.ofNat values.length) :: values },
        h.record (.read leader none))

/-- Reads a group: the claimed count and the values, as many as there is room for. -/
def readGroup (h : Host) (leader room : Nat) :
    Except CallFault (UInt64 × List UInt64) × Host :=
  match h.readRaw leader with
  | (.error number, h) => (.error (.readFailed leader number), h)
  | (.ok answer, h) => (answer.decode leader room, h)

/-- Closes a counter. -/
def close (h : Host) (handle : Nat) : Host :=
  { h with counters := h.counters.filter fun c => c.handle ≠ handle }

/-- Closes several counters. -/
def closeAll (h : Host) (handles : List Nat) : Host :=
  { h with counters := h.counters.filter fun c => c.handle ∉ handles }

/-- Takes a clock sample; `none` when the clock has no more to give. -/
def sampleClock (h : Host) : Option ClockSample × Host :=
  match h.clock with
  | [] => (none, h)
  | sample :: rest => (some sample, { h with clock := rest })

/-- A machine that refuses to open any counter. -/
def withoutCounters : Host :=
  { faults := [{ call := .opening, times := UInt64.size, effect := .fail .notFound }] }

end Host

end ScopeMeter

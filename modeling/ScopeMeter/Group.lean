import ScopeMeter.Host.Basic
import ScopeMeter.Scope.Tracker

/-!
# Counter groups

A group is one leading counter and its siblings, opened, zeroed, started, stopped and read
together through the leader. Either all counters of a group are open or none: when one of them
cannot be opened, those opened before it are closed again.
-/

namespace ScopeMeter

/-- What an operation leaves behind: its result, the changed value and the machine. -/
structure Outcome (σ α : Type) where
  result : α
  next : σ
  host : Host

/-- An open counter of a group. -/
structure Member where
  name : String
  handle : Nat
  deriving DecidableEq, Repr

structure Group where
  /-- The open counters, the leader first. -/
  members : List Member := []
  scope : Tracker := {}
  deriving DecidableEq

namespace Group

def size (g : Group) : Nat := g.members.length

def isEmpty (g : Group) : Bool := g.members.isEmpty

def names (g : Group) : List String := g.members.map (·.name)

def handles (g : Group) : List Nat := g.members.map (·.handle)

/-- The handle of the leader. -/
def leader? (g : Group) : Option Nat := g.members.head?.map (·.handle)

/-- Opens the remaining events of a group behind the counters opened so far; when one of them
fails, all are closed. -/
def openSiblings (leader : Nat) (tid cpu : Int32) :
    List Event → List Member → Host → Except Error (List Member) × Host
  | [], opened, h => (.ok opened, h)
  | e :: events, opened, h =>
    match h.openCounter e.attributes tid cpu (some leader) with
    | (.error fault, h) => (.error (.counterOpen e.name fault), h.closeAll (opened.map (·.handle)))
    | (.ok handle, h) => openSiblings leader tid cpu events (opened ++ [⟨e.name, handle⟩]) h

/-- Opens the events of a group, the first one as its leader; when one of them fails, all are
closed. -/
def openMembers (first : Event) (rest : List Event) (tid cpu : Int32) (h : Host) :
    Except Error (List Member) × Host :=
  match h.openCounter first.attributes tid cpu none with
  | (.error fault, h) => (.error (.counterOpen first.name fault), h)
  | (.ok leader, h) => openSiblings leader tid cpu rest [⟨first.name, leader⟩] h

/-- Zeroes and stops the freshly opened counters; when that fails, all are closed. -/
def quiesce (leader : Nat) (members : List Member) (h : Host) : Except Error Unit × Host :=
  match h.control .reset leader with
  | (.error fault, h) => (.error (.call fault), h.closeAll (members.map (·.handle)))
  | (.ok (), h) =>
    match h.control .disable leader with
    | (.error fault, h) => (.error (.call fault), h.closeAll (members.map (·.handle)))
    | (.ok (), h) => (.ok (), h)

/-- Opens `events` as one group, zeroed and not counting. Without a thread it counts every thread
on the given processor. A failure leaves nothing open. -/
def init (g : Group) (events : List Event) (tid cpu : Option Int32) (h : Host) :
    Outcome Group (Except Error Unit) :=
  if !g.members.isEmpty then ⟨.error (.state .groupOpen), g, h⟩
  else
    match events with
    | [] => ⟨.error (.config .noEvents), g, h⟩
    | first :: rest =>
      if maxCounters < events.length then
        ⟨.error (.config (.tooManyEvents events.length maxCounters)), g, h⟩
      else
        match openMembers first rest (tid.getD (-1)) (cpu.getD (-1)) h with
        | (.error e, h) => ⟨.error e, g, h⟩
        | (.ok members, h) =>
          let leader := (members.head?.map (·.handle)).getD 0
          match quiesce leader members h with
          | (.error e, h) => ⟨.error e, g, h⟩
          | (.ok (), h) => ⟨.ok (), { members, scope := {} }, h⟩

/-- Makes control calls on the group one after the other, up to the first that fails. -/
def controlAll (leader : Nat) : List Control → Host → Except Error Unit × Host
  | [], h => (.ok (), h)
  | c :: cs, h =>
    match h.control c leader with
    | (.error fault, h) => (.error (.call fault), h)
    | (.ok (), h) => controlAll leader cs h

/-- Zeroes the counters and starts counting. -/
def start (g : Group) (h : Host) : Except Error Unit × Host :=
  match g.leader? with
  | none => (.error (.state .groupNotOpen), h)
  | some leader => controlAll leader [.reset, .enable] h

/-- Stops counting. -/
def stop (g : Group) (h : Host) : Except Error Unit × Host :=
  match g.leader? with
  | none => (.error (.state .groupNotOpen), h)
  | some leader => controlAll leader [.disable] h

/-- Reads every counter. A wrong count of values is noted. -/
def read (g : Group) (h : Host) : Except Error Snapshot × Host :=
  match g.leader? with
  | none => (.error (.state .groupNotOpen), h)
  | some leader =>
    match h.readGroup leader maxCounters with
    | (.error fault, h) => (.error (.call fault), h)
    | (.ok (count, values), h) =>
      let h := if count.toNat = g.size then h else h.note (.valueCount count g.size)
      (.ok (.ofValues ((values.take g.size).map (·.toInt64))), h)

/-- Reads every counter and then zeroes the group, so that each read gives what was counted since
the one before. An open scope moves along. When zeroing fails, that is noted, the counts go on and
the open scope stays where it is. -/
def collect (g : Group) (now : Int64) (h : Host) : Outcome Group (Except Error Snapshot) :=
  match g.read h with
  | (.error e, h) => ⟨.error e, g, h⟩
  | (.ok snap, h) =>
    match g.leader? with
    | none => ⟨.error (.state .groupNotOpen), g, h⟩
    | some leader =>
      match h.control .reset leader with
      | (.ok (), h) => ⟨.ok snap, { g with scope := g.scope.rebase snap }, h⟩
      | (.error fault, h) => ⟨.ok snap, g, h.note (.resetFailed now fault)⟩

/-- Takes the snapshot at the start or the stop of a scope, without zeroing the counters. -/
def collectScope (g : Group) (id : UInt16) (isStop : Bool) (h : Host) :
    Outcome Group (Except Error Snapshot) :=
  match g.scope.check id isStop with
  | .error fault => ⟨.error (.scope fault), g, h⟩
  | .ok () =>
    match g.read h with
    | (.error e, h) => ⟨.error e, g, h⟩
    | (.ok snap, h) => ⟨.ok snap, { g with scope := g.scope.record id isStop snap true }, h⟩

/-- Closes every counter. -/
def deinit (g : Group) (h : Host) : Group × Host := ({}, h.closeAll g.handles)

end Group

end ScopeMeter

import ScopeMeter.Proofs.Group.Answers
import ScopeMeter.Proofs.Group.Opening

/-!
# Reads of an open group

A bench is a group together with the machine that counts for it.  `Bench.next` is one step, an
operation on the group or something that happens to the machine from outside, and `Bench.run` a
series of steps.  Along every run the group is not open or holds its counters (`Bench.Valid.run`).
So an open group has between one and 32 of them, every read of it is safe whatever is answered, and
a read that nothing disturbs delivers what each counter has counted, in the order in which the
counters were opened (`Bench.read_safe`).
-/

namespace ScopeMeter

structure Bench where
  group : Group := {}
  host : Host
  /-- The events that the group was last opened for. -/
  events : List Event := []

namespace Bench

inductive Act
  | init (events : List Event) (tid cpu : Option Int32)
  | start
  | stop
  | read
  | collect (now : Int64)
  | scope (id : UInt16) (isStop : Bool)
  | deinit
  | outside (stimulus : Stimulus)

/-- The bench with another group and machine. -/
def after {α : Type} (b : Bench) (o : Outcome Group α) : Bench :=
  { b with group := o.next, host := o.host }

def next (b : Bench) : Act → Bench
  | .init events tid cpu =>
    let opened := b.group.init events tid cpu b.host
    { b.after opened with events := if opened.result.isOk then events else b.events }
  | .start => { b with host := (b.group.start b.host).2 }
  | .stop => { b with host := (b.group.stop b.host).2 }
  | .read => { b with host := (b.group.read b.host).2 }
  | .collect now => b.after (b.group.collect now b.host)
  | .scope id isStop => b.after (b.group.collectScope id isStop b.host)
  | .deinit => { b with group := (b.group.deinit b.host).1, host := (b.group.deinit b.host).2 }
  | .outside stimulus => { b with host := b.host.meet stimulus }

def run (b : Bench) (acts : List Act) : Bench := acts.foldl next b

/-- The machine is sound, and an open group has a live counter for each of its events. -/
structure Valid (b : Bench) : Prop where
  sound : b.host.Sound
  open_ : b.group.members = [] ∨
    ∃ leader, b.group.Holds b.host leader ∧ b.group.names = b.events.map (·.name)

variable {b b' : Bench}

/-- An open group holds its counters. -/
theorem Valid.holds (valid : b.Valid) {leader : Nat} (opened : b.group.leader? = some leader) :
    b.group.Holds b.host leader ∧ b.group.names = b.events.map (·.name) := by
  rcases valid.open_ with none | ⟨other, holds, names⟩
  · rw [Group.leader?, none] at opened
    cases opened
  · obtain rfl : other = leader := Option.some.inj (holds.opened.symm.trans opened)
    exact ⟨holds, names⟩

/-- Counters are neither opened nor closed, and the group keeps its members. -/
theorem Valid.of_same (valid : b.Valid) (same : b.host.SameCounters b'.host)
    (members : b'.group.members = b.group.members) (events : b'.events = b.events) :
    b'.Valid := by
  refine ⟨valid.sound.of_same same, ?_⟩
  rcases valid.open_ with none | ⟨leader, holds, names⟩
  · exact .inl (members.trans none)
  · refine .inr ⟨leader, (holds.of_same same).of_members members, ?_⟩
    rw [Group.names, members, events]
    exact names

theorem Valid.init (valid : b.Valid) (events : List Event) (tid cpu : Option Int32) :
    (b.next (.init events tid cpu)).Valid := by
  have last : (b.next (.init events tid cpu)).events =
      if (b.group.init events tid cpu b.host).result.isOk then events else b.events := rfl
  rcases Group.init_cases valid.sound b.group events tid cpu with
    ⟨e, failed, same, restored⟩ | ⟨ok, _, names, opening, holds⟩
  · rw [failed] at last
    refine ⟨valid.sound.of_restored restored, ?_⟩
    have kept : (b.next (.init events tid cpu)).group = b.group := same
    rw [kept, last]
    refine valid.open_.imp_right ?_
    rintro ⟨leader, holds, named⟩
    exact ⟨leader, holds.of_restored restored, named⟩
  · rw [ok] at last
    refine ⟨opening.sound, .inr ⟨_, holds, ?_⟩⟩
    rw [last]
    exact names

theorem Valid.next (valid : b.Valid) (a : Act) : (b.next a).Valid := by
  cases a with
  | init events tid cpu => exact valid.init events tid cpu
  | start => exact valid.of_same (b.group.sameCounters_start b.host) rfl rfl
  | stop => exact valid.of_same (b.group.sameCounters_stop b.host) rfl rfl
  | read => exact valid.of_same (b.group.unchanged_read b.host).same rfl rfl
  | collect now =>
    exact valid.of_same (b.group.sameCounters_collect now b.host)
      (b.group.members_collect now b.host) rfl
  | scope id isStop =>
    exact valid.of_same (b.group.collectScope_cases id isStop b.host).1.same
      (b.group.members_collectScope id isStop b.host) rfl
  | deinit => exact ⟨valid.sound.closeAll _, .inl rfl⟩
  | outside stimulus => exact valid.of_same (b.host.sameCounters_meet stimulus) rfl rfl

theorem Valid.run (valid : b.Valid) (acts : List Act) : (b.run acts).Valid := by
  induction acts generalizing b with
  | nil => exact valid
  | cons a acts ih => exact ih (valid.next a)

/-- Whatever is done with a group and whatever happens to its machine, as long as the group is open
it has between one and 32 members, in the order of its events and of their opening.  Every answer to
a read fits together with them, and a read that nothing disturbs fits the buffer and delivers every
counter. -/
theorem read_safe (h : Host) (sound : h.Sound) (acts : List Act) :
    let b := ({ host := h } : Bench).run acts
    ∀ leader, b.group.leader? = some leader →
      1 ≤ b.group.size ∧ b.group.size ≤ 32 ∧
      b.group.names = b.events.map (·.name) ∧ b.group.handles.Pairwise (· < ·) ∧
      (∀ (a : ReadAnswer) (room : Nat), a.bytes ≤ 520 →
        a.decode? leader room = some (a.decode leader room)) ∧
      b.group.ReadsSafely leader ∧
      (b.group.read b.host).1 = b.group.reading leader (b.host.readRaw leader).1 ∧
      (∀ a, (b.host.readRaw leader).1 = .ok a → a.bytes ≤ 520) ∧
      ((b.host.fire .reading (b.host.subjectOf leader)).1 = none →
        8 * (b.group.size + 1) ≤ 520 ∧
        ∃ snap, (b.group.read b.host).1 = .ok snap ∧ snap.size = b.group.size ∧
          ∀ i < b.group.size, ∃ c ∈ b.host.counters, c.leader = leader ∧
            b.group.handles[i]? = some c.handle ∧ snap.value i = c.value.toInt64) := by
  intro b leader opened
  have valid : b.Valid := Valid.run ⟨sound, .inl rfl⟩ acts
  obtain ⟨holds, names⟩ := valid.holds opened
  have sized : b.group.size ≤ maxCounters := holds.size_le
  refine ⟨Group.size_pos opened, sized, names, holds.ascending_handles valid.sound,
    fun a room fits => ReadAnswer.decode?_eq fits leader room, Group.readsSafely sized leader,
    Group.read_eq opened b.host, fun a answered => Host.bytes_le_of_readRaw answered, ?_⟩
  intro calm
  have fits : b.group.size ≤ 32 := sized
  exact ⟨by omega, holds.delivers calm⟩

/-- A group of two events of a thread is opened and started, and the thread runs. -/
def sampleReads : List Act :=
  [.init [{ name := "cycles", type := 0, config := 0 }, { name := "misses", type := 0, config := 3 }]
      (some 7) none,
    .start, .outside (.tick 7 none [500, 20])]

/-- An answer that was cut inside the second value and claims more than any group has. -/
def sampleAnswer : ReadAnswer := ⟨20, [18446744073709551615, 500, 20]⟩

theorem read_safe_sampleReads :
    let b := ({ host := {} } : Bench).run sampleReads
    ({} : Host).Sound ∧ b.group.leader? = some 1000 ∧
    (b.host.fire .reading (b.host.subjectOf 1000)).1 = none ∧
    (∃ snap, (b.group.read b.host).1 = .ok snap ∧ snap.size = b.group.size) ∧
    sampleAnswer.bytes ≤ 520 ∧ 8 ≤ sampleAnswer.bytes ∧
    ∃ snap, b.group.reading 1000 (.ok sampleAnswer) = .ok snap ∧ snap.value 0 = 500 ∧
      snap.value 1 = 0 := by
  intro b
  have sound : ({} : Host).Sound := .of_counters_eq_nil rfl
  have opened : b.group.leader? = some 1000 := by decide
  have calm : (b.host.fire .reading (b.host.subjectOf 1000)).1 = none := by decide
  have size : b.group.size = 2 := by decide
  obtain ⟨-, -, -, -, -, safe, -, -, undisturbed⟩ := read_safe {} sound sampleReads 1000 opened
  obtain ⟨-, snap, read, covered, -⟩ := undisturbed calm
  have counts : 8 ≤ sampleAnswer.bytes := by decide
  obtain ⟨cut, reading, -, each⟩ := safe.shaped sampleAnswer counts
  refine ⟨sound, opened, calm, ⟨snap, read, covered⟩, by decide, counts, cut, reading, ?_, ?_⟩
  · exact (each 0 (by rw [size]; decide)).trans (by decide)
  · exact (each 1 (by rw [size]; decide)).trans (by decide)

end Bench

end ScopeMeter

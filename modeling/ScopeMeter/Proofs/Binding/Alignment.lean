import Mathlib.Algebra.Ring.Nat
import ScopeMeter.Proofs.Binding

/-!
# Rounds of one binding

All events of a binding have series of one shape, and those of its scopes have one shape of their
own (`Binding.Even`): a round lengthens every series of an event, also when nothing could be read,
a stop lengthens every series of scopes, and summing up treats equal shapes alike.  This takes
names that keep the series apart (`Binding.WellNamed`).

A `RoundLog` remembers which rounds were summed up together.  The series of the events have its
shape, and a coherent subsystem unit has a clock sample for each of its rounds (`Binding.Paced`).
-/

namespace ScopeMeter

/-- The rounds since the series were last forgotten: how many went into each sum, which are not
none, and how many are still to be summed up. -/
structure RoundLog where
  blocks : List Nat := []
  waiting : Nat := 0
  filled : ∀ n ∈ blocks, 0 < n := by decide

namespace RoundLog

def rounds (log : RoundLog) : Nat := log.blocks.sum + log.waiting

/-- The shape of a series with one sample for each round. -/
def shape (log : RoundLog) : Nat × Nat := (log.blocks.length, log.waiting)

def add (log : RoundLog) : RoundLog := { log with waiting := log.waiting + 1 }

theorem filled_concat (log : RoundLog) (waits : log.waiting ≠ 0) :
    ∀ n ∈ log.blocks ++ [log.waiting], 0 < n := by
  intro n member
  rcases List.mem_append.mp member with old | new
  · exact log.filled n old
  · rw [List.mem_singleton.mp new]
    exact Nat.pos_of_ne_zero waits

def settle (log : RoundLog) : RoundLog :=
  if waits : log.waiting = 0 then log
  else { blocks := log.blocks ++ [log.waiting], filled := log.filled_concat waits }

theorem rounds_add (log : RoundLog) : log.add.rounds = log.rounds + 1 := (Nat.add_assoc ..).symm

theorem shape_settle (log : RoundLog) : log.settle.shape = Series.settle log.shape := by
  unfold settle Series.settle shape
  split
  · rfl
  · rw [List.length_append, List.length_singleton]

/-- Summing up forgets no round. -/
theorem rounds_settle (log : RoundLog) : log.settle.rounds = log.rounds := by
  unfold settle rounds
  split
  · rfl
  · rw [List.sum_append, List.sum_singleton, Nat.add_zero]

theorem length_le_sum {blocks : List Nat} (filled : ∀ n ∈ blocks, 0 < n) :
    blocks.length ≤ blocks.sum ∧ (blocks.length = blocks.sum ↔ ∀ n ∈ blocks, n = 1) := by
  induction blocks with
  | nil => exact ⟨Nat.le_refl 0, iff_of_true rfl (List.forall_mem_nil _)⟩
  | cons n blocks ih =>
    rw [List.forall_mem_cons] at filled
    obtain ⟨positive, filled⟩ := filled
    obtain ⟨le, eq_iff⟩ := ih filled
    rw [List.forall_mem_cons, ← eq_iff, List.length_cons, List.sum_cons]
    omega

/-- There are as many values as rounds exactly if each sum is one of a single round. -/
theorem size_eq_rounds_iff (log : RoundLog) :
    log.shape.1 + log.shape.2 = log.rounds ↔ ∀ n ∈ log.blocks, n = 1 := by
  rw [shape, rounds, Nat.add_right_cancel_iff]
  exact (length_le_sum log.filled).2

end RoundLog

namespace Binding

/-- The names of the events are distinct, and none is that of a series of scopes. -/
structure WellNamed (b : Binding) : Prop where
  distinct : b.eventNames.Nodup
  apart : ∀ name ∈ b.eventNames, name ∉ Accumulator.scopeNames b.eventNames

/-- The series of all events have this shape, and are present as soon as they hold anything; those
of all scopes have one shape, and what waits for them in the accumulator one length. -/
structure Even (b : Binding) (shape : Nat × Nat) : Prop where
  events : ∀ name ∈ b.eventNames, (b.series name).shape = shape
  present : ∀ name ∈ b.eventNames, (b.results.get? name).isSome ↔ 0 < shape.1 + shape.2
  scopes : ∃ scopeShape, ∀ name ∈ Accumulator.scopeNames b.eventNames,
    (b.series name).shape = scopeShape
  level : ∃ length, b.scopes.Level length
  sized : b.scopes.sums.length = b.eventNames.length

variable {b b' : Binding} {h : Host} {shape : Nat × Nat}

theorem WellNamed.of_eventNames (named : b.WellNamed) (same : b'.eventNames = b.eventNames) :
    b'.WellNamed := by
  obtain ⟨distinct, apart⟩ := named
  rw [← same] at distinct apart
  exact ⟨distinct, apart⟩

/-- A binding that was just opened has no series yet. -/
theorem even_init (b : Binding) (empty : b.results = .empty) (events : List Event) (h : Host) :
    (b.init events h).next.Even (0, 0) := by
  have none : ∀ name, (b.init events h).next.results.get? name = Option.none := by
    intro name
    exact (congrArg (Keyed.get? · name) empty).trans (Keyed.get?_empty name)
  have noSeries : ∀ name, ((b.init events h).next.series name).shape = (0, 0) := by
    intro name
    rw [series, none]
    rfl
  refine ⟨fun name _ => noSeries name, ?_, ⟨(0, 0), fun name _ => noSeries name⟩,
    ⟨0, Accumulator.level_new _⟩, ?_⟩
  · intro name _
    rw [none]
    exact iff_of_false Bool.false_ne_true (Nat.lt_irrefl 0)
  · exact (List.length_replicate ..).trans (List.length_map ..).symm

/-- Forgetting the series leaves none. -/
theorem Even.clear (even : b.Even shape) : b.clear.Even (0, 0) :=
  ⟨fun _ _ => rfl, fun _ _ => iff_of_false Bool.false_ne_true (Nat.lt_irrefl 0),
    ⟨(0, 0), fun _ _ => rfl⟩, even.level, even.sized⟩

/-- Operations that only add to the sums of scopes keep the series. -/
theorem Even.of_scopes (even : b.Even shape) (names : b'.eventNames = b.eventNames)
    (results : b'.results = b.results) (level : ∃ length, b'.scopes.Level length)
    (sized : b'.scopes.sums.length = b.scopes.sums.length) : b'.Even shape := by
  obtain ⟨events, present, scopes, _, fits⟩ := even
  refine ⟨?_, ?_, ?_, level, by rw [sized, fits, names]⟩
  · rw [names]
    simpa only [series, results] using events
  · rw [names, results]
    exact present
  · rw [names]
    simpa only [series, results] using scopes

/-- Summing up turns equal shapes into equal shapes, and leaves no series that was there empty. -/
theorem Even.summarize (even : b.Even shape) : b.summarize.Even (Series.settle shape) := by
  obtain ⟨events, present, ⟨scopeShape, scopes⟩, level, sized⟩ := even
  refine ⟨?_, ?_, ⟨Series.settle scopeShape, ?_⟩, level, sized⟩
  · intro name member
    rw [series_summarize, Series.shape_summarize, events name member]
  · intro name member
    have held : 0 < (Series.settle shape).1 + (Series.settle shape).2 ↔ 0 < shape.1 + shape.2 := by
      unfold Series.settle
      split <;> omega
    rw [held, ← present name member, Binding.summarize, Keyed.get?_map, Option.isSome_map]
  · intro name member
    rw [series_summarize, Series.shape_summarize, scopes name member]

/-- A round lengthens the series of every event by one value, whether or not it was read. -/
theorem Even.collect (named : b.WellNamed) (even : b.Even shape) (now : Int64) (h : Host) :
    (b.collect now h).next.Even (shape.1, shape.2 + 1) := by
  obtain ⟨_, _, clocks, next⟩ := b.collect_eq now h
  obtain ⟨events, present, ⟨scopeShape, scopes⟩, level, sized⟩ := even
  have grown : ∀ name ∈ b.eventNames, ∃ value, (b.collect now h).next.results.get? name =
      some ((b.series name).push value) := by
    intro name member
    obtain ⟨index, bound⟩ := List.mem_iff_getElem?.1 member
    rw [next]
    exact ⟨_, get?_addRound named.distinct bound _⟩
  have names : (b.collect now h).next.eventNames = b.eventNames :=
    (b.sameMake_collect now h).eventNames
  have accumulator : (b.collect now h).next.scopes = b.scopes := by
    rw [next]
    rfl
  refine ⟨?_, ?_, ⟨scopeShape, ?_⟩, ?_, ?_⟩
  · rw [names]
    intro name member
    obtain ⟨value, pushed⟩ := grown name member
    rw [series, pushed, Option.getD_some, Series.push, Series.shape_append, events name member]
    rfl
  · rw [names]
    intro name member
    obtain ⟨value, pushed⟩ := grown name member
    rw [pushed]
    exact iff_of_true rfl (Nat.succ_pos _)
  · rw [names]
    intro name member
    have absent : name ∉ b.eventNames := fun event => named.apart name event member
    rw [next, series]
    exact (congrArg (fun s => (s.getD {}).shape) (get?_addRound_of_notMem absent _)).trans
      (scopes name member)
  · rwa [accumulator]
  · rw [accumulator, names, sized]

/-- A stop lengthens the series of scopes alike and empties the accumulator. -/
theorem Even.stop (named : b.WellNamed) (even : b.Even shape) (h : Host) :
    (b.stop h).next.Even shape := by
  obtain ⟨events, present, ⟨scopeShape, scopes⟩, ⟨length, level⟩, sized⟩ := even
  have kept : ∀ name ∈ b.eventNames,
      (b.stop h).next.results.get? name = b.results.get? name := fun name member =>
    Accumulator.get?_flushInto sized (named.apart name member) b.results
  refine ⟨?_, ?_, ⟨(scopeShape.1, scopeShape.2 + length), ?_⟩,
    ⟨0, Accumulator.level_flushed (Nat.le_of_eq sized)⟩, ?_⟩
  · intro name member
    rw [series, kept name member]
    exact events name member
  · intro name member
    rw [kept name member]
    exact present name member
  · intro name member
    have flushed := Accumulator.shape_flushInto level sized named.distinct member b.results
    rw [← series, scopes name member] at flushed
    exact flushed
  · exact (Accumulator.length_sums_flushed ..).trans sized

theorem Even.scopeStart (even : b.Even shape) (id : UInt16) (mask : ScopeMask) (h : Host) :
    (b.scopeStart id mask h).next.Even shape := by
  rcases (b.scopeStart_cases id mask h).2 with ⟨_, _, next⟩ | ⟨_, _, _, _, next⟩
  · rw [next]
    exact even
  · rw [next]
    exact even.of_scopes rfl rfl even.level rfl

/-- A stop of a scope reaches the same slot of every array of the accumulator. -/
theorem Even.scopeStop (even : b.Even shape) (id : UInt16) (mask : ScopeMask) (isOwn : Bool)
    (h : Host) : (b.scopeStop id mask isOwn h).next.Even shape := by
  rcases (b.scopeStop_cases id mask isOwn h).2 with ⟨_, _, next⟩ | ⟨_, _, _, _, _, next⟩
  · rw [next]
    exact even
  · rw [next]
    obtain ⟨length, level⟩ := even.level
    exact even.of_scopes rfl rfl ⟨_, level.record ..⟩ (b.scopes.length_sums_record ..)

/-! ## Clock samples -/

/-- The series of the events have the shape of a log, and a coherent subsystem unit has a clock
sample for each round. -/
structure Paced (b : Binding) (log : RoundLog) : Prop where
  even : b.WellNamed → b.Even log.shape
  clocks : ∀ device, b.device = .cspmu device → b.clocks.length = log.rounds

variable {log log' : RoundLog}

theorem length_clocks_addClock (b : Binding) {device : String} (unit : b.device = .cspmu device)
    (h : Host) : (b.addClock h).1.clocks.length = b.clocks.length + 1 := by
  unfold addClock
  rw [unit]
  dsimp only
  split
  · exact List.length_append
  · exact List.length_append

/-- A round of a coherent subsystem unit has a clock sample, also when none could be taken. -/
theorem length_clocks_collect {device : String} (unit : b.device = .cspmu device) (now : Int64)
    (h : Host) : (b.collect now h).next.clocks.length = b.clocks.length + 1 := by
  unfold Binding.collect
  generalize b.group.collect now h = read
  exact length_clocks_addClock ({ b with group := read.next }.addRound (b.roundOf read.result))
    unit read.host

theorem paced_init (b : Binding) (empty : b.results = .empty) (none : b.clocks = [])
    (events : List Event) (h : Host) : (b.init events h).next.Paced {} :=
  ⟨fun _ => b.even_init empty events h, fun _ _ => congrArg List.length none⟩

theorem Paced.collect (paced : b.Paced log) (now : Int64) (h : Host) :
    (b.collect now h).next.Paced log.add := by
  constructor
  · intro named
    have named := named.of_eventNames (b.sameMake_collect now h).eventNames.symm
    exact (paced.even named).collect named now h
  · intro device unit
    have unit := (b.sameMake_collect now h).device.symm.trans unit
    rw [length_clocks_collect unit, paced.clocks device unit, log.rounds_add]

theorem Paced.stop (paced : b.Paced log) (h : Host) : (b.stop h).next.Paced log := by
  refine ⟨fun named => ?_, paced.clocks⟩
  have named : b.WellNamed := named.of_eventNames rfl
  exact (paced.even named).stop named h

theorem Paced.scopeStart (paced : b.Paced log) (id : UInt16) (mask : ScopeMask) (h : Host) :
    (b.scopeStart id mask h).next.Paced log := by
  have names := (b.sameMake_scopeStart id mask h).eventNames
  refine ⟨fun named => (paced.even (named.of_eventNames names.symm)).scopeStart id mask h, ?_⟩
  rcases (b.scopeStart_cases id mask h).2 with ⟨_, _, next⟩ | ⟨_, _, _, _, next⟩
  · rw [next]
    exact paced.clocks
  · rw [next]
    exact paced.clocks

theorem Paced.scopeStop (paced : b.Paced log) (id : UInt16) (mask : ScopeMask) (isOwn : Bool)
    (h : Host) : (b.scopeStop id mask isOwn h).next.Paced log := by
  have names := (b.sameMake_scopeStop id mask isOwn h).eventNames
  refine ⟨fun named => (paced.even (named.of_eventNames names.symm)).scopeStop id mask isOwn h, ?_⟩
  rcases (b.scopeStop_cases id mask isOwn h).2 with ⟨_, _, next⟩ | ⟨_, _, _, _, _, next⟩
  · rw [next]
    exact paced.clocks
  · rw [next]
    exact paced.clocks

theorem Paced.clear (paced : b.Paced log) : b.clear.Paced {} :=
  ⟨fun named => (paced.even (named.of_eventNames rfl)).clear, fun _ _ => rfl⟩

/-- Summing up makes the series shorter, and leaves the clock samples. -/
theorem Paced.summarize (paced : b.Paced log) : b.summarize.Paced log.settle := by
  constructor
  · intro named
    rw [log.shape_settle]
    exact (paced.even (named.of_eventNames rfl)).summarize
  · intro device unit
    rw [log.rounds_settle]
    exact paced.clocks device unit

end Binding

end ScopeMeter

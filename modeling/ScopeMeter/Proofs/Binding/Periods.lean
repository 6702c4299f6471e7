import ScopeMeter.Proofs.Binding.Alignment
import ScopeMeter.Proofs.Binding.Invocations
import ScopeMeter.Proofs.Scope.Periods

/-!
# Periods of a binding

A `ScopeLog` says which invocations of scopes a binding has recorded: period by period those that
were flushed since the series were last forgotten, and those since the last stop.  A binding
`Logs` one when its series of scopes are the tallies of the periods behind each other and its
accumulator tallies the rest; each operation on the binding is a step of the log.
-/

namespace ScopeMeter

structure ScopeLog where
  /-- The invocations of each period that was closed. -/
  periods : List (List Invocation) := []
  /-- The invocations since then. -/
  current : List Invocation := []

namespace ScopeLog

def add (log : ScopeLog) (v? : Option Invocation) : ScopeLog :=
  { log with current := log.current ++ v?.toList }

def close (log : ScopeLog) : ScopeLog := ⟨log.periods ++ [log.current], []⟩

def forget (log : ScopeLog) : ScopeLog := { log with periods := [] }

end ScopeLog

namespace Binding

/-- The sums of the binding are those of the invocations in the log. -/
structure Logs (b : Binding) (log : ScopeLog) : Prop where
  sized : b.scopes.sums.length = b.eventNames.length
  current : b.scopes.Tallies log.current
  series : ∀ s ∈ Accumulator.scopeAmounts b.eventNames,
    (b.series s.1).values = tallies s.2 log.periods

variable {b b' : Binding} {log : ScopeLog}

/-- A binding that was just opened has recorded nothing. -/
theorem logs_init (b : Binding) (empty : b.results = .empty) (events : List Event) (h : Host) :
    (b.init events h).next.Logs {} := by
  refine ⟨?_, Accumulator.tallies_new _, ?_⟩
  · exact (List.length_replicate ..).trans (List.length_map ..).symm
  · intro s _
    have none : (b.init events h).next.results.get? s.1 = Option.none :=
      (congrArg (Keyed.get? · s.1) empty).trans (Keyed.get?_empty s.1)
    rw [Binding.series, none]
    rfl

/-- A round reaches no series of scopes. -/
theorem Logs.collect (logs : b.Logs log) (named : b.WellNamed) (now : Int64) (h : Host) :
    (b.collect now h).next.Logs log := by
  obtain ⟨_, _, clocks, next⟩ := b.collect_eq now h
  obtain ⟨sized, current, series⟩ := logs
  rw [next]
  refine ⟨sized, current, ?_⟩
  intro s scope
  have absent : s.1 ∉ b.eventNames := fun event =>
    named.apart s.1 event (Accumulator.mem_scopeNames scope)
  have kept := get?_addRound_of_notMem absent (b.roundOf (b.group.collect now h).result)
  exact (congrArg (fun s => (s.getD {}).values) kept).trans (series s scope)

/-- A scope call adds its invocation. -/
theorem Logs.scopeStep (logs : b.Logs log) (call : ScopeCall) (id : UInt16) (mask : ScopeMask)
    (tid : Int32) (h : Host) :
    (Collector.scopeStep call id mask tid b h).next.Logs
      (log.add (b.invocation? call id mask tid h)) := by
  obtain ⟨sized, current, series⟩ := logs
  obtain ⟨_, make, results⟩ := Collector.scopeStep_cases call id mask tid b h
  refine ⟨?_, ?_, ?_⟩
  · rw [make.sums, make.eventNames, sized]
  · rcases b.scopes_scopeStep call id mask tid h with ⟨none, scopes⟩ |
      ⟨isOwn, stop, _, some, scopes⟩
    · rw [scopes, none, ScopeLog.add, Option.toList_none, List.append_nil]
      exact current
    · rw [scopes, some]
      exact current.record id isOwn b.group.scope.start stop
  · rw [make.eventNames]
    intro s scope
    rw [Binding.series, results]
    exact series s scope

/-- A stop closes the period. -/
theorem Logs.stop (logs : b.Logs log) (named : b.WellNamed) (h : Host) :
    (b.stop h).next.Logs log.close := by
  obtain ⟨sized, current, series⟩ := logs
  refine ⟨(Accumulator.length_sums_flushed ..).trans sized,
    Accumulator.tallies_flushed (Nat.le_of_eq sized), ?_⟩
  intro s scope
  have flushed := current.values_flushInto sized named.distinct scope b.results
  rw [ScopeLog.close, tallies_concat, ← series s scope]
  exact flushed

/-- Forgetting the series forgets the periods. -/
theorem Logs.clear (logs : b.Logs log) : b.clear.Logs log.forget :=
  ⟨logs.sized, logs.current, fun _ _ => rfl⟩

/-- A period without an invocation makes no difference. -/
theorem Logs.of_close (logs : b.Logs log.close) (none : log.current = []) : b.Logs log := by
  obtain ⟨sized, current, series⟩ := logs
  refine ⟨sized, by rw [none]; exact current, ?_⟩
  intro s scope
  rw [series s scope, ScopeLog.close, none, tallies_concat]
  exact List.append_nil _

end Binding

end ScopeMeter

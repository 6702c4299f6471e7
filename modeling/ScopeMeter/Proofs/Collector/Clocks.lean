import ScopeMeter.Proofs.Collector.Alignment
import ScopeMeter.Proofs.Collector.ScopeSeries

/-!
# Clock samples beside the counters

A coherent subsystem unit takes a clock sample in every round, and the entry behind its own one
shows all of them.  Summing up replaces several rounds of a counter by one value and leaves the
samples, so the two are parallel as long as no sum is one of several rounds, and only so
(`Engine.clock_samples`).
-/

namespace ScopeMeter

/-! ## The entry of the clock samples -/

namespace Report

variable {b : Binding}

/-- In a document the clock samples of a unit stand behind its own entry. -/
theorem exists_clockEntry {bs : List Binding} (member : b ∈ bs) (role : b.role = .cspmu)
    (allThread : Bool) : ∃ before after,
      entries allThread bs = before ++ [bindingEntry b, clockEntry b] ++ after := by
  have listed : b ∈ foreground bs := by
    apply List.mem_append_left
    apply List.mem_append_right
    exact List.mem_filter.mpr ⟨member, decide_eq_true role⟩
  obtain ⟨front, back, split⟩ := List.append_of_mem listed
  have pair : bindingEntries b = [bindingEntry b, clockEntry b] := by
    rw [bindingEntries, if_pos role]
  refine ⟨front.flatMap bindingEntries, back.flatMap bindingEntries ++
    [aggregateEntry Aggregate.replay.entry (foreground bs)] ++
      if allThread then backgroundEntries bs else [], ?_⟩
  rw [entries, foregroundEntries]
  nth_rewrite 1 [split]
  rw [List.flatMap_append, List.flatMap_cons, pair]
  simp only [List.append_assoc]

end Report

namespace Engine

open Report

/-- After every run of a collector, whichever reads and clock samples fail in it: the binding of a
coherent subsystem unit has a clock sample for each round since its series were last forgotten, the
entry behind its own one shows these samples, and each series of an event has a value for each sum
and each round that is still to be summed up.  So there are as many values as samples exactly if
each sum is one of a single round. -/
theorem clock_samples (name : String) (config : Json) (perApi : Bool) (h : Host)
    (acts : List Act) :
    let ready := fresh name config perApi h
    let e := ready.run acts
    let log := ready.roundsOf {} acts
    ∀ b ∈ e.bindings, ∀ device, b.device = .cspmu device →
      (∃ before after, (e.next .postprocess).collector.result.field? "thread_data" = some (.arr
        ((before ++ [bindingEntry b, clockEntry b] ++ after).map Json.ofKeyed))) ∧
      (clockEntry b).get? (device ++ "_sec") = some (.ofSeries (b.clocks.map (·.sec))) ∧
      (clockEntry b).get? (device ++ "_nsec") = some (.ofSeries (b.clocks.map (·.nsec))) ∧
      b.clocks.length = log.blocks.sum + log.waiting ∧
      (b.WellNamed →
        (∀ n ∈ b.eventNames, (shown (bindingEntry b) n).length =
          log.blocks.length + log.waiting) ∧
        ((∀ n ∈ b.eventNames, (shown (bindingEntry b) n).length = b.clocks.length) ↔
          ∀ rounds ∈ log.blocks, rounds = 1)) := by
  intro ready e log b member device unit
  have planned : e.Planned := (planned_fresh name config perApi h).run acts
  have named : FreelyNamed e.bindings :=
    planned.freelyNamed (lasting_filed.forall_run (List.forall_mem_nil _) acts)
  have paced : b.Paced log := (paced_fresh name config perApi h).run acts b member
  have samples : b.clocks.length = log.rounds := paced.clocks device unit
  have clock := showsSamples_clockEntry unit
  refine ⟨?_, clock.sec, clock.nsec, samples, fun wellNamed => ?_⟩
  · obtain ⟨before, after, split⟩ := exists_clockEntry member (planned.role_of_unit member unit)
      e.collector.plan.allThread
    refine ⟨before, after, ?_⟩
    rw [← split]
    exact field?_document ..
  · have sizes : ∀ n ∈ b.eventNames, (shown (bindingEntry b) n).length =
        log.blocks.length + log.waiting := by
      intro n event
      rw [shown_bindingEntry named member (planned.unreserved member event)]
      show (b.series n).size = _
      rw [Series.size_eq, (paced.even wellNamed).events n event]
      rfl
    refine ⟨sizes, ?_⟩
    rw [← log.size_eq_rounds_iff, samples]
    constructor
    · -- A binding without an event would be parallel for nothing, but each one has an event.
      intro parallel
      obtain ⟨n, event⟩ := List.exists_mem_of_ne_nil _ (planned.eventNames_ne_nil member)
      exact (sizes n event).symm.trans (parallel n event)
    · exact fun parallel n event => (sizes n event).trans parallel

/-- One round summed up alone, two summed up together, and one that waits; no clock answers. -/
def sampleBurst : List Act :=
  [.init sampleMachine, .start, .collect 1, .summarize, .collect 2, .collect 3, .summarize,
    .collect 4]

theorem reached_sampleBurst :
    ((fresh "perf" sampleDocument false {}).run sampleBurst).bindings[0]?.map (fun b =>
      (b.device, b.eventNames, b.clocks.length)) = some (.cspmu "east", ["east_reads"], 4) := by
  cbv

theorem clock_samples_sampleBurst :
    let ready := fresh "perf" sampleDocument false {}
    let log := ready.roundsOf {} sampleBurst
    log.blocks = [1, 2] ∧ log.waiting = 1 ∧
      ∃ b ∈ (ready.run sampleBurst).bindings, b.device = .cspmu "east" ∧ b.WellNamed ∧
        b.clocks.length = 4 ∧ (shown (bindingEntry b) "east_reads").length = 3 ∧
        (clockEntry b).get? "east_sec" = some (.ofSeries (b.clocks.map (·.sec))) ∧
        ((∀ n ∈ b.eventNames, (shown (bindingEntry b) n).length = b.clocks.length) ↔
          ∀ rounds ∈ log.blocks, rounds = 1) := by
  intro ready log
  have logged : (log.blocks, log.waiting) = ([1, 2], 1) := by
    simp only [log, ready]
    cbv
  rw [Prod.mk.injEq] at logged
  obtain ⟨blocks, waiting⟩ := logged
  obtain ⟨b, bound, is⟩ := Option.map_eq_some_iff.mp reached_sampleBurst
  rw [Prod.mk.injEq, Prod.mk.injEq] at is
  obtain ⟨unit, names, _⟩ := is
  have member := List.mem_of_getElem? bound
  have named : b.WellNamed := ⟨by rw [names]; decide, by rw [names]; decide⟩
  obtain ⟨_, sec, _, samples, counters⟩ :=
    clock_samples "perf" sampleDocument false {} sampleBurst b member "east" unit
  obtain ⟨sizes, parallel⟩ := counters named
  have event : "east_reads" ∈ b.eventNames := by rw [names]; exact List.mem_singleton_self _
  refine ⟨blocks, waiting, b, member, unit, named, samples.trans ?_, (sizes _ event).trans ?_, sec,
    parallel⟩
  · show log.blocks.sum + log.waiting = 4
    rw [blocks, waiting]
    rfl
  · show log.blocks.length + log.waiting = 3
    rw [blocks, waiting]
    rfl

/-- Four clock samples stand beside three values. -/
theorem not_parallel_sampleBurst :
    ∃ b ∈ ((fresh "perf" sampleDocument false {}).run sampleBurst).bindings,
      b.device = .cspmu "east" ∧ b.WellNamed ∧ b.eventNames = ["east_reads"] ∧
        b.clocks.length = 4 ∧ (b.series "east_reads").size = 3 := by
  have sized : ((fresh "perf" sampleDocument false {}).run sampleBurst).bindings[0]?.map (fun b =>
      (b.series "east_reads").size) = some 3 := by
    cbv
  obtain ⟨b, bound, is⟩ := Option.map_eq_some_iff.mp reached_sampleBurst
  rw [bound] at sized
  rw [Prod.mk.injEq, Prod.mk.injEq] at is
  obtain ⟨unit, names, samples⟩ := is
  have named : b.WellNamed := ⟨by rw [names]; decide, by rw [names]; decide⟩
  exact ⟨b, List.mem_of_getElem? bound, unit, named, names, samples, Option.some.inj sized⟩

end Engine

end ScopeMeter

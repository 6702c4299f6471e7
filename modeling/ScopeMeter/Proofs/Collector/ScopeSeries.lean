import ScopeMeter.Proofs.Binding.Periods
import ScopeMeter.Proofs.Collector.Totals

/-!
# Series of scopes over several periods

`Engine.logOf` follows a run and notes which invocations of scopes the binding at a position
records, period by period.  The series of its scopes are at all times the tallies of these periods
behind each other (`Engine.Logged.run`).  So a position in a series is a scope number as long as
only the first period with an invocation adds anything, and in a series of calls only so; entries
of groups add the series of their bindings position by position (`Engine.scope_series`).
-/

namespace ScopeMeter

namespace Engine

/-- The machine at the turn of the binding at a position of a scope call. -/
def scopeTurn (e : Engine) (call : ScopeCall) (id : UInt16) (mask : ScopeMask) (tid : Int32)
    (k : Nat) : Host :=
  Collector.hostAt (Collector.scopeStep call id mask tid)
    (fun b e => .scopeFailed call id b.name b.device.label e) e.bindings e.host k

/-- What becomes of the log of the binding at a position. -/
def nextLog (e : Engine) (k : Nat) (log : ScopeLog) : Act → ScopeLog
  | .init _ => if e.collector.state = .uninitialized then {} else log
  | .deinit => {}
  | .stop => if e.collector.state = .started then log.close else log
  | .scope call id mask tid =>
    if e.collector.collecting then
      log.add (e.bindings[k]?.bind fun b =>
        b.invocation? call id mask tid (e.scopeTurn call id mask tid k))
    else log
  | .clear => if e.collector.collecting then log else log.forget
  | _ => log

/-- The log of the binding at a position in the course of a run. -/
def logOf (k : Nat) : Engine → ScopeLog → List Act → ScopeLog
  | _, log, [] => log
  | e, log, a :: acts => (e.next a).logOf k (e.nextLog k log a) acts

/-- The binding at a position holds the sums of a log, and between periods nothing waits to be
flushed. -/
structure Logged (e : Engine) (k : Nat) (log : ScopeLog) : Prop where
  unprepared : e.collector.state = .uninitialized → e.bindings = []
  collecting : e.collector.collecting ↔ e.collector.state = .started
  flushed : e.collector.state ≠ .started → log.current = []
  logs : ∀ b, e.bindings[k]? = some b → b.WellNamed → b.Logs log

variable {e : Engine} {k : Nat} {log log' : ScopeLog}

theorem logged_fresh (name : String) (config : Json) (perApi : Bool) (h : Host) (k : Nat) :
    (fresh name config perApi h).Logged k {} :=
  ⟨fun _ => rfl, iff_of_false nofun nofun, fun _ => rfl, fun _ => nofun⟩

/-- What a sweep does to the binding at a position it does to its log. -/
theorem Logged.sweep (logged : e.Logged k log)
    {op : Binding → Host → Outcome Binding (Except Error Unit)}
    (notice : Binding → Error → Notice)
    (names : ∀ (b : Binding) h, (op b h).next.eventNames = b.eventNames)
    (step : ∀ b, e.bindings[k]? = some b → b.WellNamed → b.Logs log →
      (op b (Collector.hostAt op notice e.bindings e.host k)).next.Logs log') :
    ∀ b', (Collector.sweep op notice e.bindings e.host).next[k]? = some b' → b'.WellNamed →
      b'.Logs log' := by
  intro b' bound named
  obtain ⟨b, old, rfl⟩ := Collector.exists_of_sweep_getElem? bound
  have named := named.of_eventNames (names b _).symm
  exact step b old named (logged.logs b old named)

theorem Logged.init (logged : e.Logged k log) (site : Site) :
    (e.next (.init site)).Logged k (e.nextLog k log (.init site)) := by
  have unlogged : e.collector.state = .uninitialized → e.nextLog k log (.init site) = {} :=
    fun unprepared => if_pos unprepared
  rcases e.init_cases site with ⟨prepared, next⟩ | ⟨unprepared, ⟨plan, bindings, ready, next⟩ |
    ⟨error, _, next⟩⟩
  · have same : e.nextLog k log (.init site) = log := if_neg prepared
    rw [next, same]
    exact ⟨logged.unprepared, logged.collecting, logged.flushed, logged.logs⟩
  · have idle : ¬e.collector.collecting := by
      rw [logged.collecting, unprepared]
      nofun
    rw [next, unlogged unprepared]
    refine ⟨nofun, iff_of_false idle nofun, fun _ => rfl, ?_⟩
    intro b bound _
    obtain ⟨_, _, _, opened⟩ := Collector.prepare_opened ready
    obtain ⟨spec, _, h, rfl⟩ := Plan.exists_opened opened (List.mem_of_getElem? bound)
    exact spec.binding.logs_init rfl _ h
  · rw [next, unlogged unprepared]
    refine ⟨logged.unprepared, logged.collecting, fun _ => rfl, ?_⟩
    intro b bound
    have none : e.bindings[k]? = none := by rw [logged.unprepared unprepared, List.getElem?_nil]
    cases none.symm.trans bound

/-- A start that fails stops the bindings that it had started; no invocation was there to flush. -/
theorem Logged.start (logged : e.Logged k log) : (e.next .start).Logged k log := by
  have kept : e.collector.state ≠ .started → ∀ b',
      (Collector.startAll [] e.bindings e.host).next[k]? = some b' → b'.WellNamed → b'.Logs log := by
    intro idle b' bound named
    obtain ⟨b, old, rfl | ⟨h, rfl⟩⟩ := Collector.exists_of_getElem?_right
      (Collector.startAll_forall₂ [] e.bindings e.host) bound
    · exact logged.logs b' old named
    · have named : b.WellNamed := named.of_eventNames rfl
      exact ((logged.logs b old named).stop named h).of_close (logged.flushed idle)
  rcases e.start_cases with ⟨_, _, next⟩ | ⟨_, _, next⟩ | ⟨idle, prepared, ⟨_, _, next⟩ | ⟨_, _, next⟩⟩
  · rw [next]
    exact logged
  · rw [next]
    exact ⟨logged.unprepared, logged.collecting, logged.flushed, logged.logs⟩
  · rw [next]
    exact ⟨nofun, iff_of_true rfl rfl, fun stopped => absurd rfl stopped, kept idle⟩
  · rw [next]
    exact ⟨fun unprepared => absurd unprepared prepared, logged.collecting, logged.flushed,
      kept idle⟩

/-- The series of scopes follow the log, as long as nothing is summed up. -/
theorem Logged.next (logged : e.Logged k log) {a : Act} (counts : a.isSummarize = false) :
    (e.next a).Logged k (e.nextLog k log a) := by
  cases a with
  | summarize => cases counts
  | init site => exact logged.init site
  | start => exact logged.start
  | deinit => exact ⟨fun _ => rfl, iff_of_false nofun nofun, fun _ => rfl, fun _ => nofun⟩
  | stop =>
    rw [next_stop]
    simp only [nextLog]
    split
    next started =>
      refine ⟨nofun, iff_of_false nofun nofun, fun _ => rfl, ?_⟩
      refine logged.sweep _ (fun _ _ => rfl) ?_
      intro b _ named logs
      exact logs.stop named _
    next => exact logged
  | collect now =>
    rw [next_collect]
    simp only [nextLog]
    split
    next collecting =>
      have started := logged.collecting.mp collecting
      refine ⟨fun unprepared => ?_, logged.collecting, logged.flushed, ?_⟩
      · cases started.symm.trans unprepared
      refine logged.sweep _ (fun b h => (b.sameMake_collect now h).eventNames) ?_
      intro b _ named logs
      exact logs.collect named now _
    next => exact logged
  | scope call id mask tid =>
    rw [next_scope]
    simp only [nextLog]
    split
    next collecting =>
      have started := logged.collecting.mp collecting
      refine ⟨fun unprepared => ?_, logged.collecting, fun idle => absurd started idle, ?_⟩
      · cases started.symm.trans unprepared
      refine logged.sweep _
        (fun b h => (Collector.scopeStep_cases call id mask tid b h).2.1.eventNames) ?_
      intro b bound _ logs
      rw [bound]
      exact logs.scopeStep call id mask tid _
    next => exact logged
  | clear =>
    rw [next_clear]
    simp only [nextLog]
    split
    next => exact logged
    next =>
      refine ⟨fun unprepared => ?_, logged.collecting, logged.flushed, ?_⟩
      · exact List.map_eq_nil_iff.mpr (logged.unprepared unprepared)
      · intro b' bound named
        obtain ⟨b, old, rfl⟩ := Option.map_eq_some_iff.mp ((List.getElem?_map ..).symm.trans bound)
        have named : b.WellNamed := named.of_eventNames rfl
        exact (logged.logs b old named).clear
  | postprocess => exact ⟨logged.unprepared, logged.collecting, logged.flushed, logged.logs⟩
  | outside stimulus => exact ⟨logged.unprepared, logged.collecting, logged.flushed, logged.logs⟩

theorem Logged.run (logged : e.Logged k log) {acts : List Act}
    (counts : ∀ a ∈ acts, a.isSummarize = false) :
    (e.run acts).Logged k (e.logOf k log acts) := by
  induction acts generalizing e log with
  | nil => exact logged
  | cons a acts ih =>
    rw [List.forall_mem_cons] at counts
    exact ih (logged.next counts.1) counts.2

end Engine

/-! ## Entries -/

namespace Report

variable {bs others : List Binding} {series : String}

theorem get?_labels_of_unreserved (unreserved : series ∉ [sumKey, threadKey, deviceKey])
    (thread : String) (device : Option String) :
    series ≠ sumKey ∧ (labels thread device).get? series = none := by
  rw [List.mem_cons, not_or] at unreserved
  exact ⟨unreserved.1, get?_labels unreserved.2⟩

theorem shown_bindingEntry (named : FreelyNamed bs) {b : Binding} (member : b ∈ bs)
    (unreserved : series ∉ [sumKey, threadKey, deviceKey]) :
    shown (bindingEntry b) series = (b.series series).values := by
  obtain ⟨apart, free⟩ := get?_labels_of_unreserved unreserved b.name b.namedDevice?
  rw [(shows_bindingEntry named member).shown apart free, Binding.column, Binding.series]
  cases b.results.get? series <;> rfl

/-- A sum of columns of bindings reads as the sum of what the entries of the bindings show. -/
theorem getD_columnOf (named : FreelyNamed bs)
    (unreserved : series ∉ [sumKey, threadKey, deviceKey]) (i : Nat) :
    ((columnOf bs series).getD [])[i]?.getD 0 =
      wrappingSum (bs.map fun b => (shown (bindingEntry b) series)[i]?.getD 0) := by
  rw [columnOf, getD_sumColumns, List.map_map]
  congr 1
  apply List.map_congr_left
  intro b member
  rw [shown_bindingEntry named member unreserved, Function.comp_apply, Binding.column,
    Binding.series]
  cases b.results.get? series <;> rfl

theorem shown_aggregateEntry (named : FreelyNamed bs) (a : Aggregate)
    (unreserved : series ∉ [sumKey, threadKey, deviceKey]) (i : Nat) :
    (shown (aggregateEntry a.entry bs) series)[i]?.getD 0 =
      wrappingSum (bs.map fun b => (shown (bindingEntry b) series)[i]?.getD 0) := by
  obtain ⟨apart, free⟩ := get?_labels_of_unreserved unreserved a.name none
  rw [(shows_aggregateEntry named a).shown apart free, getD_columnOf named unreserved]

theorem shown_all (named : FreelyNamed bs) (named' : FreelyNamed others)
    (unreserved : series ∉ [sumKey, threadKey, deviceKey]) (i : Nat) :
    (shown (aggregateEntry ((aggregateEntry Aggregate.replay.entry bs).insert threadKey
        (.str Aggregate.all.name)) others) series)[i]?.getD 0 =
      wrappingSum ((bs ++ others).map fun b => (shown (bindingEntry b) series)[i]?.getD 0) := by
  obtain ⟨apart, free⟩ := get?_labels_of_unreserved unreserved Aggregate.all.name none
  rw [(shows_all named named').shown apart free, sumColumns_pair, getD_merge, getD_addSeries,
    getD_columnOf named unreserved, getD_columnOf named' unreserved, List.map_append,
    wrappingSum_append]

end Report

namespace Engine

open Report

/-- After every run of a collector that sums nothing up and that is not started at its end: each
series of the scopes of a binding is the tally of the invocations of each period since the series
were forgotten, one behind the other.  If the periods behind the first one with an invocation add
nothing below the shared slot, the value at a position is that of the scope number, and for the two
series of calls only then.  The entries of groups add up position by position what the entries of
their bindings show. -/
theorem scope_series (name : String) (config : Json) (perApi : Bool) (h : Host) (acts : List Act)
    (counts : ∀ a ∈ acts, a.isSummarize = false) :
    let ready := fresh name config perApi h
    let e := ready.run acts
    let workload := foreground e.bindings
    let background := ofRole e.bindings .background
    let total := aggregateEntry Aggregate.replay.entry workload
    let rest := aggregateEntry Aggregate.background.entry background
    let all := aggregateEntry (total.insert threadKey (.str Aggregate.all.name)) background
    (e.next .postprocess).collector.result.field? "thread_data" = some (.arr
      ((workload.flatMap bindingEntries ++ [total] ++ if e.collector.plan.allThread then
        background.map bindingEntry ++ [rest, all] else []).map Json.ofKeyed)) ∧
    (e.collector.state ≠ .started → ∀ (k : Nat) (b : Binding), e.bindings[k]? = some b →
      b.WellNamed →
        let periods := (ready.logOf k {} acts).periods
        let vs := periods.flatten
        let calls := shown (bindingEntry b) scopeCallsName
        let ownCalls := shown (bindingEntry b) scopeOwnCallsName
        (∀ s ∈ Accumulator.scopeAmounts b.eventNames,
          shown (bindingEntry b) s.1 = tallies s.2 periods ∧
            (Settled s.2 periods → Indexed s.2 (shown (bindingEntry b) s.1) vs)) ∧
        (vs.length < 2 ^ 64 →
          (Indexed Invocation.called calls vs ↔ Settled Invocation.called periods) ∧
            (Indexed Invocation.ownCalled ownCalls vs ↔ Settled Invocation.ownCalled periods))) ∧
    ∀ g ∈ [(total, workload), (rest, background), (all, workload ++ background)],
      ∀ series ∉ [sumKey, threadKey, deviceKey], ∀ i : Nat,
        (shown g.1 series)[i]?.getD 0 =
          wrappingSum (g.2.map fun b => (shown (bindingEntry b) series)[i]?.getD 0) := by
  intro ready e workload background total rest all
  have named : FreelyNamed e.bindings := ((planned_fresh name config perApi h).run acts).freelyNamed
    (lasting_filed.forall_run (List.forall_mem_nil _) acts)
  have front : FreelyNamed workload := freelyNamed_workload named
  have back : FreelyNamed background := named.ofRole .background
  refine ⟨field?_document .., ?_, ?_⟩
  · intro stopped k b bound wellNamed periods vs calls ownCalls
    have logged : e.Logged k (ready.logOf k {} acts) :=
      (logged_fresh name config perApi h k).run counts
    have logs := logged.logs b bound wellNamed
    have columns : ∀ s ∈ Accumulator.scopeAmounts b.eventNames,
        shown (bindingEntry b) s.1 = tallies s.2 periods := by
      intro s scope
      have unreserved := Accumulator.unreserved_scopeNames (Accumulator.mem_scopeNames scope)
      rw [shown_bindingEntry named (List.mem_of_getElem? bound) unreserved]
      exact logs.series s scope
    refine ⟨fun s scope => ⟨columns s scope, ?_⟩, fun fits => ?_⟩
    · rw [columns s scope]
      exact Settled.indexed
    · have callsAre := columns (scopeCallsName, Invocation.called)
        (List.mem_append_right _ List.mem_cons_self)
      have ownCallsAre := columns (scopeOwnCallsName, Invocation.ownCalled)
        (List.mem_append_right _ (List.mem_cons_of_mem _ List.mem_cons_self))
      refine ⟨?_, ?_⟩
      · show Indexed _ (shown (bindingEntry b) scopeCallsName) vs ↔ _
        rw [callsAre]
        exact indexed_iff_settled (p := Invocation.counted) fits
      · show Indexed _ (shown (bindingEntry b) scopeOwnCallsName) vs ↔ _
        rw [ownCallsAre]
        exact indexed_iff_settled (p := fun v => v.counted && v.isOwn) fits
  · intro g member series unreserved i
    simp only [List.mem_cons, List.not_mem_nil, or_false] at member
    rcases member with rfl | rfl | rfl
    · exact shown_aggregateEntry front .replay unreserved i
    · exact shown_aggregateEntry back .background unreserved i
    · exact shown_all front back unreserved i

/-- The same scope in two periods. -/
def sampleTwice : List Act :=
  let period := [.start, .scope .start 1 ⟨1⟩ 101, .outside (.tick 101 none [5, 2]),
    .scope .stop 1 ⟨1⟩ 101, .stop]
  .init sampleTask :: (period ++ period)

theorem periods_sampleTwice :
    ((fresh "perf" sampleThreads false {}).logOf 0 {} sampleTwice).periods =
      [[⟨1, true, [5, 2]⟩], [⟨1, true, [5, 2]⟩]] := by
  cbv

theorem reached_sampleTwice :
    (fun c : Collector => (c.state,
      c.bindings[0]?.map fun b => (b.eventNames, shown (bindingEntry b) scopeCallsName),
      wrappingSum ((foreground c.bindings).map fun b =>
        (shown (bindingEntry b) scopeCallsName)[3]?.getD 0)))
      ((fresh "perf" sampleThreads false {}).run sampleTwice).collector =
        (.stopped, some (["CPUCycleCount", "misses"], [0, 1, 0, 1]), 1) := by
  cbv

theorem scope_series_sampleTwice :
    let ready := fresh "perf" sampleThreads false {}
    let e := ready.run sampleTwice
    let periods := (ready.logOf 0 {} sampleTwice).periods
    (∀ a ∈ sampleTwice, a.isSummarize = false) ∧ e.collector.state ≠ .started ∧
      ∃ b, e.bindings[0]? = some b ∧ b.WellNamed ∧ periods.flatten.length < 2 ^ 64 ∧
        shown (bindingEntry b) "misses:ScopeSum" = tallies (Invocation.delta 1) periods ∧
        (Indexed Invocation.called (shown (bindingEntry b) scopeCallsName) periods.flatten ↔
          Settled Invocation.called periods) ∧
        (shown (aggregateEntry Aggregate.replay.entry (foreground e.bindings))
          scopeCallsName)[3]?.getD 0 = 1 := by
  intro ready e periods
  have reached := reached_sampleTwice
  rw [Prod.mk.injEq, Prod.mk.injEq] at reached
  obtain ⟨stopped, first, sum⟩ := reached
  obtain ⟨b, bound, is⟩ := Option.map_eq_some_iff.mp first
  have names : b.eventNames = ["CPUCycleCount", "misses"] := congrArg Prod.fst is
  have counts : ∀ a ∈ sampleTwice, a.isSummarize = false := by decide
  have idle : e.collector.state ≠ .started := by
    rw [stopped]
    nofun
  have named : b.WellNamed := ⟨by rw [names]; decide, by rw [names]; decide⟩
  have fits : periods.flatten.length < 2 ^ 64 := by
    rw [show periods = _ from periods_sampleTwice]
    decide
  obtain ⟨_, own, groups⟩ := scope_series "perf" sampleThreads false {} sampleTwice counts
  obtain ⟨columns, indexed⟩ := own idle 0 b bound named
  refine ⟨counts, idle, b, bound, named, fits, ?_, (indexed fits).1, ?_⟩
  · apply (columns ("misses:ScopeSum", Invocation.delta 1) ?_).1
    rw [names]
    exact List.mem_append_left _ (List.mem_cons_of_mem _ List.mem_cons_self)
  · rw [groups (_, foreground e.bindings) List.mem_cons_self scopeCallsName (by decide)]
    exact sum

/-- Both calls of the scope count, but the entry shows one at the position of its number, and the
other one at a position that no scope has. -/
theorem not_indexed_sampleTwice :
    let ready := fresh "perf" sampleThreads false {}
    let vs := (ready.logOf 0 {} sampleTwice).periods.flatten
    ∃ b, (ready.run sampleTwice).bindings[0]? = some b ∧
      shown (bindingEntry b) scopeCallsName = [0, 1, 0, 1] ∧
      slotSum Invocation.called vs 1 = 2 ∧
      ¬Indexed Invocation.called (shown (bindingEntry b) scopeCallsName) vs := by
  intro ready vs
  have reached := reached_sampleTwice
  rw [Prod.mk.injEq, Prod.mk.injEq] at reached
  obtain ⟨b, bound, is⟩ := Option.map_eq_some_iff.mp reached.2.1
  have calls : shown (bindingEntry b) scopeCallsName = [0, 1, 0, 1] := congrArg Prod.snd is
  have twice : slotSum Invocation.called vs 1 = 2 := by
    simp only [vs, ready, periods_sampleTwice]
    decide
  refine ⟨b, bound, calls, twice, ?_⟩
  intro indexed
  have one := indexed 1 (by decide)
  rw [calls, twice] at one
  exact absurd one (by decide)

end Engine

end ScopeMeter

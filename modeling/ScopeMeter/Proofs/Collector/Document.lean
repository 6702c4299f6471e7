import ScopeMeter.Proofs.Collector.Planned
import ScopeMeter.Proofs.Report.Aggregate

/-!
# What the result document accounts for

The series of a binding are those of its events and of its scopes (`Binding.Filed`), and no such
series has a name that an entry uses otherwise.  So every entry shows exactly the columns of its
binding or of its group of bindings, the entries of clock samples show exactly these
(`Report.ShowsSamples`), and the document has one entry for each binding
(`Engine.document_accounts`).
-/

namespace ScopeMeter

/-! ## Which series a binding has -/

namespace Binding

variable {b b' : Binding}

/-- The sums of scopes are those of the events, and every series is one of an event or of a
scope. -/
structure Filed (b : Binding) : Prop where
  sized : b.scopes.sums.length = b.eventNames.length
  known : ∀ name, (b.results.get? name).isSome →
    name ∈ b.eventNames ++ Accumulator.scopeNames b.eventNames

/-- An operation that adds no other series keeps the series known. -/
theorem Filed.of_sameMake (filed : b.Filed) (make : b.SameMake b')
    (old : ∀ name, name ∉ b.eventNames ++ Accumulator.scopeNames b.eventNames →
      b.results.get? name = none → b'.results.get? name = none) : b'.Filed := by
  refine ⟨by rw [make.sums, filed.sized, make.eventNames], ?_⟩
  intro name present
  rw [make.eventNames]
  by_contra absent
  have before : b.results.get? name = none := by
    rw [← Option.not_isSome_iff_eq_none]
    exact fun present => absent (filed.known name present)
  rw [old name absent before] at present
  cases present

/-- The device that the entry of a binding names. -/
def namedDevice? (b : Binding) : Option String :=
  match b.device with
  | .pmu device | .cspmu device => some device
  | .single | .interconnect => none

theorem deviceName?_device (b : Binding) : Report.deviceName? b.device = b.namedDevice? := by
  unfold namedDevice?
  cases b.device <;> rfl

end Binding

theorem Engine.lasting_filed : Lasting Binding.Filed where
  opened := by
    rintro p spec b ⟨h, rfl⟩
    refine ⟨?_, fun _ => nofun⟩
    exact (List.length_replicate ..).trans (List.length_map ..).symm
  moved := by
    intro b b' moved filed
    have make := moved.sameMake
    cases moved with
    | stay => exact filed
    | collect now h =>
      refine filed.of_sameMake make ?_
      intro name absent before
      rw [List.mem_append, not_or] at absent
      obtain ⟨_, _, _, next⟩ := b.collect_eq now h
      rw [next]
      exact (Binding.get?_addRound_of_notMem absent.1 _).trans before
    | scope call id mask tid h =>
      refine filed.of_sameMake make fun name _ before => ?_
      rw [(Collector.scopeStep_cases call id mask tid b h).2.2]
      exact before
    | stop h =>
      refine filed.of_sameMake make ?_
      intro name absent before
      rw [List.mem_append, not_or] at absent
      exact (Accumulator.get?_flushInto filed.sized absent.2 b.results).trans before
    | summarize =>
      refine filed.of_sameMake make fun name _ before => ?_
      rw [Binding.summarize, Keyed.get?_map, before]
      rfl
    | clear => exact filed.of_sameMake make fun _ _ _ => rfl

/-! ## Entries -/

namespace Report

/-- The fields that tell what an entry is about. -/
def labels (thread : String) (device : Option String) : Keyed Json :=
  let named := Keyed.empty.insert threadKey (.str thread)
  match device with
  | some device => named.insert deviceKey (.str device)
  | none => named

theorem get?_labels {thread : String} {device : Option String} {name : String}
    (free : name ∉ [threadKey, deviceKey]) : (labels thread device).get? name = none := by
  rw [List.mem_cons, List.mem_singleton, not_or] at free
  unfold labels
  cases device with
  | none => rw [Keyed.get?_insert, if_neg (Ne.symm free.1), Keyed.get?_empty]
  | some device =>
    rw [Keyed.get?_insert, if_neg (Ne.symm free.2), Keyed.get?_insert, if_neg (Ne.symm free.1),
      Keyed.get?_empty]

/-- What an entry shows of a series of some bindings: the sum over the bindings. -/
def columnOf (bs : List Binding) (name : String) : Option (List Int64) :=
  sumColumns (bs.map (·.column name))

/-- Bindings that are gone through role by role are gone through once each. -/
theorem perm_ofRole (bs : List Binding) :
    (ofRole bs .replay ++ ofRole bs .cspmu ++ ofRole bs .interconnect ++
      ofRole bs .background).Perm bs := by
  induction bs with
  | nil => exact .nil
  | cons b bs ih =>
    have first : ∀ front back : List Binding, (front ++ back).Perm bs →
        (front ++ b :: back).Perm (b :: bs) :=
      fun _ _ rest => List.perm_middle.trans (rest.cons b)
    have front : ∀ role, ofRole (b :: bs) role =
        if b.role = role then b :: ofRole bs role else ofRole bs role := by
      intro role
      simp only [ofRole, List.filter_cons, decide_eq_true_eq]
    simp only [List.append_assoc] at ih ⊢
    simp only [front]
    cases b.role with
    | replay => exact ih.cons b
    | cspmu => exact first _ _ ih
    | interconnect =>
      have rest := first (ofRole bs .replay ++ ofRole bs .cspmu) _ (by rwa [List.append_assoc])
      rwa [List.append_assoc] at rest
    | background =>
      have rest := first (ofRole bs .replay ++ (ofRole bs .cspmu ++ ofRole bs .interconnect)) _
        (by rwa [List.append_assoc, List.append_assoc])
      rwa [List.append_assoc, List.append_assoc] at rest

variable {bs : List Binding}

/-- No series of some bindings has a name that entries use. -/
def FreelyNamed (bs : List Binding) : Prop :=
  ∀ b ∈ bs, ∀ name ∈ b.results.keys, name ∉ [sumKey, threadKey, deviceKey]

theorem FreelyNamed.free (named : FreelyNamed bs) (thread : String) (device : Option String) :
    ∀ b ∈ bs, ∀ name ∈ b.results.keys,
      name ≠ sumKey ∧ (labels thread device).get? name = none := by
  intro b member name listed
  have free := named b member name listed
  rw [List.mem_cons, not_or] at free
  exact ⟨free.1, get?_labels free.2⟩

theorem FreelyNamed.column_eq_none (named : FreelyNamed bs) {b : Binding} (member : b ∈ bs)
    {name : String} (used : name ∈ [sumKey, threadKey, deviceKey]) : b.column name = none := by
  rw [← Option.not_isSome_iff_eq_none, isSome_column]
  exact fun listed => named b member name listed used

theorem FreelyNamed.columnOf_eq_none (named : FreelyNamed bs) {name : String}
    (used : name ∈ [sumKey, threadKey, deviceKey]) : columnOf bs name = none :=
  sumColumns_column_eq_none fun b member listed => named b member name listed used

theorem shows_bindingEntry (named : FreelyNamed bs) {b : Binding} (member : b ∈ bs) :
    Shows (bindingEntry b) (labels b.name b.namedDevice?) b.column := by
  rw [← b.deviceName?_device]
  have shown := (shows_labels (get?_labels (by decide))).merge
    (named.free b.name (deviceName? b.device) b member)
  exact shown.congr fun name => Option.merge_none_right

theorem shows_aggregateEntry (named : FreelyNamed bs) (a : Aggregate) :
    Shows (aggregateEntry a.entry bs) (labels a.name none) (columnOf bs) := by
  have unsummed : (labels a.name none).get? sumKey = none := get?_labels (by decide)
  exact shows_aggregate unsummed (named.free a.name none)

/-- The entry of all bindings shows what the entries of both groups show together. -/
theorem shows_all {others : List Binding} (named : FreelyNamed bs) (named' : FreelyNamed others) :
    Shows (aggregateEntry ((aggregateEntry Aggregate.replay.entry bs).insert threadKey
        (.str Aggregate.all.name)) others) (labels Aggregate.all.name none)
      fun name => sumColumns [columnOf bs name, columnOf others name] := by
  have apart : threadKey ≠ sumKey := by decide
  have relabelled := (shows_aggregateEntry named .replay).relabel apart
    (named.columnOf_eq_none (by decide)) (.str Aggregate.all.name)
  have same : (labels Aggregate.replay.name none).insert threadKey (.str Aggregate.all.name) =
      labels Aggregate.all.name none := by
    decide
  rw [same] at relabelled
  refine (relabelled.aggregate (named'.free _ _)).congr ?_
  intro name
  rw [sumColumns_pair, (Option.commutative_merge addSeries).comm]
  rfl

end Report

/-! ## Clock samples -/

namespace Report

/-- An entry shows the seconds and the nanoseconds of clock samples in two fields named after a
device, and nothing else. -/
def ShowsSamples (entry : Keyed Json) (device : String) (samples : List ClockSample) : Prop :=
  ∀ field, entry.get? field =
    if field = device ++ "_sec" then some (.ofSeries (samples.map (·.sec)))
    else if field = device ++ "_nsec" then some (.ofSeries (samples.map (·.nsec)))
    else none

variable {entry : Keyed Json} {device : String} {samples : List ClockSample}

theorem nsec_ne_sec (device : String) : device ++ "_nsec" ≠ device ++ "_sec" := by
  intro same
  exact absurd ((String.append_right_inj device).mp same) (by decide)

theorem ShowsSamples.sec (shown : ShowsSamples entry device samples) :
    entry.get? (device ++ "_sec") = some (.ofSeries (samples.map (·.sec))) :=
  (shown _).trans (if_pos rfl)

theorem ShowsSamples.nsec (shown : ShowsSamples entry device samples) :
    entry.get? (device ++ "_nsec") = some (.ofSeries (samples.map (·.nsec))) :=
  (shown _).trans ((if_neg (nsec_ne_sec device)).trans (if_pos rfl))

theorem showsSamples_clockEntry {b : Binding} (unit : b.device = .cspmu device) :
    ShowsSamples (clockEntry b) device b.clocks := by
  intro field
  have label : b.device.label = device := congrArg DeviceClass.label unit
  rw [clockEntry, label, Keyed.get?_insert, Keyed.get?_insert, Keyed.get?_empty]
  by_cases nsec : device ++ "_nsec" = field
  · subst nsec
    rw [if_pos rfl, if_neg (nsec_ne_sec device), if_pos rfl]
  · rw [if_neg nsec, if_neg (Ne.symm nsec)]
    simp only [eq_comm]

end Report

/-! ## Documents -/

namespace Report

theorem field?_document (allThread summarized : Bool) (bs : List Binding) :
    (document allThread summarized bs).field? "thread_data" =
      some (.arr ((entries allThread bs).map Json.ofKeyed)) := by
  cases summarized with
  | false => exact (Keyed.get?_insert ..).trans (if_pos rfl)
  | true => exact (Keyed.get?_insert ..).trans ((Keyed.get?_insert ..).trans (if_pos rfl))

theorem flatMap_bindingEntries (bs : List Binding) {role : Role} (plain : role ≠ .cspmu) :
    (ofRole bs role).flatMap bindingEntries = (ofRole bs role).map bindingEntry := by
  rw [List.map_eq_flatMap]
  apply List.flatMap_congr
  intro b member
  have is : b.role = role := of_decide_eq_true (List.mem_filter.mp member).2
  rw [bindingEntries, if_neg (by rwa [is])]

/-- The entries of a document, role by role. -/
theorem entries_eq (allThread : Bool) (bs : List Binding) :
    let workload := ofRole bs .replay ++ ofRole bs .cspmu ++ ofRole bs .interconnect
    let total := aggregateEntry Aggregate.replay.entry workload
    entries allThread bs =
      (ofRole bs .replay).map bindingEntry ++
        (ofRole bs .cspmu).flatMap (fun b => [bindingEntry b, clockEntry b]) ++
        (ofRole bs .interconnect).map bindingEntry ++ [total] ++
        if allThread then
          (ofRole bs .background).map bindingEntry ++
            [aggregateEntry Aggregate.background.entry (ofRole bs .background),
              aggregateEntry (total.insert threadKey (.str Aggregate.all.name))
                (ofRole bs .background)]
        else [] := by
  intro workload total
  have units : (ofRole bs .cspmu).flatMap bindingEntries =
      (ofRole bs .cspmu).flatMap fun b => [bindingEntry b, clockEntry b] := by
    apply List.flatMap_congr
    intro b member
    have role : b.role = .cspmu := of_decide_eq_true (List.mem_filter.mp member).2
    rw [bindingEntries, if_pos role]
  have replay : Role.replay ≠ .cspmu := by decide
  have interconnect : Role.interconnect ≠ .cspmu := by decide
  unfold entries foregroundEntries
  rw [foreground, List.flatMap_append, List.flatMap_append, units,
    flatMap_bindingEntries bs replay, flatMap_bindingEntries bs interconnect]
  rfl

end Report

/-- No series of scopes has a name that entries use. -/
theorem Accumulator.unreserved_scopeNames {events : List String} {name : String}
    (scope : name ∈ scopeNames events) : name ∉ [sumKey, threadKey, deviceKey] := by
  rcases List.mem_append.mp scope with sum | call
  · obtain ⟨event, _, rfl⟩ := List.mem_map.mp sum
    have last := getLast?_scopeSumName event
    intro used
    simp only [List.mem_cons, List.not_mem_nil, or_false] at used
    rcases used with same | same | same <;> rw [same] at last <;> exact absurd last (by decide)
  · have none : ∀ name ∈ [scopeCallsName, scopeOwnCallsName],
        name ∉ [sumKey, threadKey, deviceKey] := by
      decide
    exact none name call

namespace Engine

open Report

variable {e : Engine}

theorem Planned.freelyNamed (planned : e.Planned) (filed : ∀ b ∈ e.bindings, b.Filed) :
    FreelyNamed e.bindings := by
  intro b member name listed
  obtain ⟨series, found⟩ := Keyed.exists_get?_of_mem_keys listed
  rcases List.mem_append.mp ((filed b member).known name (by rw [found]; rfl)) with event | scope
  · exact planned.unreserved member event
  · exact Accumulator.unreserved_scopeNames scope

/-- The result document accounts for every binding, whatever was done with the collector before:
it has one entry for each binding, behind that of a coherent subsystem unit one with all its clock
samples, and an entry for all bindings but those of the background; if background threads are
counted, one entry for each of those, one for all of them and one for all bindings follow, and
otherwise there are none of them.  Each entry shows exactly the series of its binding or the sums
over its bindings, with the totals; the last one shows the sums of the two other groups. -/
theorem document_accounts (name : String) (config : Json) (perApi : Bool) (h : Host)
    (acts : List Act) :
    let e := (fresh name config perApi h).run acts
    let bs := e.bindings
    let workload := ofRole bs .replay ++ ofRole bs .cspmu ++ ofRole bs .interconnect
    let background := ofRole bs .background
    ∃ (own clock : Binding → Keyed Json) (first second third : Keyed Json),
      (e.next .postprocess).collector.result.field? "thread_data" = some (.arr
        (((ofRole bs .replay).map own ++
          (ofRole bs .cspmu).flatMap (fun b => [own b, clock b]) ++
          (ofRole bs .interconnect).map own ++ [first] ++
          if e.collector.plan.allThread then background.map own ++ [second, third] else []).map
            Json.ofKeyed)) ∧
      (workload ++ background).Perm bs ∧
      (e.collector.plan.allThread = true ∨ background = []) ∧
      (∀ b ∈ bs, Shows (own b) (labels b.name b.namedDevice?) b.column) ∧
      (∀ b ∈ bs, b.role = .cspmu →
        ∃ device, b.device = .cspmu device ∧ ShowsSamples (clock b) device b.clocks) ∧
      Shows first (labels "replayMainThreads" none) (columnOf workload) ∧
      Shows second (labels "backgroundThreads" none) (columnOf background) ∧
      Shows third (labels "allThreads" none)
        (fun name => sumColumns [columnOf workload name, columnOf background name]) ∧
      ∀ name, wrappingSum ((sumColumns [columnOf workload name, columnOf background name]).getD []) =
        wrappingSum ((columnOf workload name).getD []) +
          wrappingSum ((columnOf background name).getD []) := by
  intro e bs workload background
  have planned : e.Planned := (planned_fresh name config perApi h).run acts
  have filed : ∀ b ∈ bs, b.Filed := lasting_filed.forall_run (List.forall_mem_nil _) acts
  have named : FreelyNamed bs := planned.freelyNamed filed
  have all : (workload ++ background).Perm bs := perm_ofRole bs
  have front : FreelyNamed workload := fun b member =>
    named b (all.mem_iff.mp (List.mem_append_left _ member))
  have back : FreelyNamed background := fun b member =>
    named b (all.mem_iff.mp (List.mem_append_right _ member))
  refine ⟨bindingEntry, clockEntry, aggregateEntry Aggregate.replay.entry workload,
    aggregateEntry Aggregate.background.entry background,
    aggregateEntry ((aggregateEntry Aggregate.replay.entry workload).insert threadKey
      (.str Aggregate.all.name)) background, ?_, all, ?_, ?_, ?_,
    shows_aggregateEntry front .replay, shows_aggregateEntry back .background,
    shows_all front back, ?_⟩
  · refine (field?_document ..).trans ?_
    rw [entries_eq]
    rfl
  · refine (Bool.eq_false_or_eq_true _).imp_right fun uncounted => ?_
    apply List.filter_eq_nil_iff.mpr
    intro b member role
    have role : b.role = .background := of_decide_eq_true role
    rcases planned.role member with ⟨_, _, replay | ⟨_, counted⟩⟩ | ⟨_, _, unit | unit⟩
    · rw [role] at replay
      cases replay
    · rw [uncounted] at counted
      cases counted
    · rw [role] at unit
      cases unit
    · rw [role] at unit
      cases unit
  · exact fun b member => shows_bindingEntry named member
  · intro b member role
    obtain ⟨device, unit⟩ := planned.unit_of_role member role
    exact ⟨device, unit, showsSamples_clockEntry unit⟩
  · intro name
    rw [sumColumns_pair, getD_merge, wrappingSum_addSeries]

/-- Two rounds, of which the background thread sleeps through the second. -/
def sampleNap : List Act :=
  [.init sampleTask, .start, .outside (.tick 101 none [10, 3]), .outside (.tick 102 none [4, 1]),
    .outside (.tick (-1) none [7]), .collect 1, .outside (.tick 101 none [5, 2]), .collect 2, .stop]

theorem document_accounts_sampleNap :
    let e := (fresh "perf" sampleThreads false {}).run sampleNap
    (∃ b ∈ e.bindings, b.name = "mali-cmar" ∧ b.column "misses" = some [1, 0] ∧
        ∃ entry, Shows entry (labels "mali-cmar" none) b.column) ∧
      ∃ entry column, Shows entry (labels "allThreads" none) column ∧
        column "misses" = some [4, 2] ∧ column "flits" = some [7, 0] := by
  have reached : (fun bs : List Binding =>
      (bs[1]?.map fun b => (b.name, b.namedDevice?, b.column "misses"),
        ["misses", "flits"].map fun name => sumColumns
          [columnOf (ofRole bs .replay ++ ofRole bs .cspmu ++ ofRole bs .interconnect) name,
            columnOf (ofRole bs .background) name]))
        ((fresh "perf" sampleThreads false {}).run sampleNap).bindings =
      (some ("mali-cmar", none, some [1, 0]), [some [4, 2], some [7, 0]]) := by
    cbv
  obtain ⟨second, sums⟩ := Prod.mk.inj reached
  rw [List.map_cons, List.map_singleton, List.cons.injEq, List.cons.injEq] at sums
  obtain ⟨b, at_one, is⟩ := Option.map_eq_some_iff.mp second
  rw [Prod.mk.injEq, Prod.mk.injEq] at is
  obtain ⟨thread, device, column⟩ := is
  obtain ⟨own, _, _, _, third, _, _, _, each, _, _, _, all, _⟩ :=
    document_accounts "perf" sampleThreads false {} sampleNap
  have member := List.mem_of_getElem? at_one
  have shown := each b member
  rw [thread, device] at shown
  exact ⟨⟨b, member, thread, column, own b, shown⟩, third, _, all, sums.1, sums.2.1⟩

end Engine

end ScopeMeter

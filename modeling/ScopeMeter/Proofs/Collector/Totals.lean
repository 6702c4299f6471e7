import ScopeMeter.Proofs.Binding.Totals
import ScopeMeter.Proofs.Collector.Document

/-!
# Summing up changes no totals

Series may be summed up at any time, which changes what they are made of and how long they are.
A run and the same run without summing up stay alike all the same (`Engine.Alike.run`): they do the
same to the machine, and their bindings differ in how far the series are summed up.  So both
documents have the same entries with the same fields and the same totals, although the columns that
are added up for the groups of bindings are not equally long (`Engine.totals_without_summarize`).
-/

namespace ScopeMeter

/-! ## Runs -/

namespace Engine

/-- Whether an act sums up the series. -/
def Act.isSummarize : Act → Bool
  | .summarize => true
  | _ => false

/-- The same engines but for how far the series are summed up. -/
structure Alike (e e' : Engine) : Prop where
  host : e'.host = e.host
  settings : e'.settings = e.settings
  state : e'.collector.state = e.collector.state
  plan : e'.collector.plan = e.collector.plan
  collecting : e'.collector.collecting = e.collector.collecting
  bindings : List.Forall₂ Binding.Alike e.bindings e'.bindings

variable {e e' : Engine}

theorem Alike.refl (e : Engine) : Alike e e :=
  ⟨rfl, rfl, rfl, rfl, rfl, List.forall₂_same.mpr fun b _ => .refl b⟩

/-- What a collector was made with decides what it prepares. -/
theorem prepare_congr (settings : e'.settings = e.settings) (site : Site) (h : Host) :
    e'.collector.prepare site h = e.collector.prepare site h := by
  obtain ⟨name, config, perApi⟩ := by simpa only [Engine.settings, Prod.mk.injEq] using settings
  unfold Collector.prepare
  rw [name, config, perApi]

theorem Alike.init (alike : Alike e e') (site : Site) :
    Alike (e.next (.init site)) (e'.next (.init site)) := by
  obtain ⟨host, settings, state, plan, collecting, bindings⟩ := alike
  have prepared := prepare_congr settings site e.host
  have name : e'.collector.name = e.collector.name := congrArg Prod.fst settings
  have made : (e'.collector.config, e'.collector.perApi) =
      (e.collector.config, e.collector.perApi) := congrArg Prod.snd settings
  unfold Engine.next
  simp only [perform, Collector.init, host, state, prepared, name]
  split
  · split
    · refine ⟨rfl, Prod.ext rfl made, rfl, rfl, collecting, ?_⟩
      exact List.forall₂_same.mpr fun b _ => .refl b
    · exact ⟨rfl, settings, state, plan, collecting, bindings⟩
  · exact ⟨rfl, settings, state, plan, collecting, bindings⟩

theorem next_start (e : Engine) :
    let step := Collector.startAll [] e.bindings e.host
    e.next .start = if e.collector.state = .started then e
      else if e.collector.state = .uninitialized then
        ⟨e.collector, e.host.note (.startedBeforeInit e.collector.name)⟩
      else if step.result then
        ⟨{ e.collector with bindings := step.next, state := .started, collecting := true },
          step.host⟩
      else ⟨{ e.collector with bindings := step.next }, step.host⟩ := by
  intro step
  rcases e.start_cases with ⟨begun, _, next⟩ | ⟨unprepared, _, next⟩ |
    ⟨idle, prepared, ⟨ok, _, next⟩ | ⟨fails, _, next⟩⟩
  · rw [next, if_pos begun]
  · rw [next, if_neg (by rw [unprepared]; nofun), if_pos unprepared]
  · rw [next, if_neg idle, if_neg prepared, if_pos ok]
  · rw [next, if_neg idle, if_neg prepared, if_neg (by rw [fails]; nofun)]

theorem Alike.start (alike : Alike e e') : Alike (e.next .start) (e'.next .start) := by
  obtain ⟨results, hosts, nexts⟩ := Collector.startAll_alike .nil alike.bindings e.host
  have name : e'.collector.name = e.collector.name := congrArg Prod.fst alike.settings
  have begun : Alike
      ⟨{ e.collector with
        bindings := (Collector.startAll [] e.bindings e.host).next
        state := .started
        collecting := true }, (Collector.startAll [] e.bindings e.host).host⟩
      ⟨{ e'.collector with
        bindings := (Collector.startAll [] e'.bindings e.host).next
        state := .started
        collecting := true }, (Collector.startAll [] e'.bindings e.host).host⟩ :=
    ⟨hosts, alike.settings, rfl, alike.plan, rfl, nexts⟩
  have undone : Alike
      ⟨{ e.collector with bindings := (Collector.startAll [] e.bindings e.host).next },
        (Collector.startAll [] e.bindings e.host).host⟩
      ⟨{ e'.collector with bindings := (Collector.startAll [] e'.bindings e.host).next },
        (Collector.startAll [] e'.bindings e.host).host⟩ :=
    ⟨hosts, alike.settings, alike.state, alike.plan, alike.collecting, nexts⟩
  rw [next_start, next_start, alike.state, alike.host, name, results]
  split
  · exact alike
  · split
    · exact ⟨rfl, alike.settings, alike.state, alike.plan, alike.collecting, alike.bindings⟩
    · split
      · exact begun
      · exact undone

/-- Acts that sum nothing up keep engines alike. -/
theorem Alike.next (alike : Alike e e') {a : Act} (counts : a.isSummarize = false) :
    Alike (e.next a) (e'.next a) := by
  have name : ∀ b b' : Binding, b.Alike b' → b'.name = b.name := by
    intro b b' same
    rw [same.bare]
  cases a with
  | summarize => cases counts
  | init site => exact alike.init site
  | start => exact alike.start
  | deinit =>
    refine ⟨?_, alike.settings, rfl, rfl, rfl, .nil⟩
    have closed : (e'.next .deinit).host = Collector.closeBindings e'.bindings e'.host := rfl
    rw [closed, alike.host, Collector.closeBindings_alike alike.bindings]
    rfl
  | stop =>
    obtain ⟨_, hosts, nexts⟩ := Collector.blind_stop.sweep
      (fun b e => .stopFailed b.name e) (fun b b' _ same => by rw [name b b' same])
      alike.bindings e.host
    rw [next_stop, next_stop, alike.state, alike.host]
    split
    · exact ⟨hosts, alike.settings, rfl, alike.plan, rfl, nexts⟩
    · exact alike
  | collect now =>
    obtain ⟨_, hosts, nexts⟩ := (Collector.blind_collect now).sweep
      (fun b e => .readFailed b.name e) (fun b b' _ same => by rw [name b b' same])
      alike.bindings e.host
    rw [next_collect, next_collect, alike.collecting, alike.host]
    split
    · exact ⟨hosts, alike.settings, alike.state, alike.plan, alike.collecting, nexts⟩
    · exact alike
  | scope call id mask tid =>
    obtain ⟨_, hosts, nexts⟩ := (Collector.blind_scopeStep call id mask tid).sweep
      (fun b e => .scopeFailed call id b.name b.device.label e)
      (fun b b' _ same => by rw [same.bare]) alike.bindings e.host
    rw [next_scope, next_scope, alike.collecting, alike.host]
    split
    · exact ⟨hosts, alike.settings, alike.state, alike.plan, alike.collecting, nexts⟩
    · exact alike
  | clear =>
    rw [next_clear, next_clear, alike.collecting]
    split
    · exact alike
    · refine ⟨alike.host, alike.settings, alike.state, alike.plan, alike.collecting, ?_⟩
      apply List.forall₂_map_left_iff.mpr
      apply List.forall₂_map_right_iff.mpr
      exact alike.bindings.imp fun _ _ alike => alike.clear
  | postprocess =>
    exact ⟨alike.host, alike.settings, alike.state, alike.plan, alike.collecting, alike.bindings⟩
  | outside stimulus =>
    exact ⟨congrArg (Host.meet · stimulus) alike.host, alike.settings, alike.state, alike.plan,
      alike.collecting, alike.bindings⟩

/-- Summing up the series of one of them keeps engines alike. -/
theorem Alike.summarize_left (alike : Alike e e') : Alike (e.next .summarize) e' :=
  ⟨alike.host, alike.settings, alike.state, alike.plan, alike.collecting,
    List.forall₂_map_left_iff.mpr (alike.bindings.imp fun _ _ alike => alike.summarize_left)⟩

/-- A run and the same run without summing up stay alike. -/
theorem Alike.run (alike : Alike e e') (acts : List Act) :
    Alike (e.run acts) (e'.run (acts.filter fun a => !a.isSummarize)) := by
  induction acts generalizing e e' with
  | nil => exact alike
  | cons a acts ih =>
    by_cases sums : a.isSummarize = true
    · rw [List.filter_cons_of_neg (by simpa using sums)]
      cases a with
      | summarize => exact ih alike.summarize_left
      | _ => cases sums
    · have counts : a.isSummarize = false := eq_false_of_ne_true sums
      rw [List.filter_cons_of_pos (by simpa using counts)]
      exact ih (alike.next counts)

end Engine

/-! ## Totals of entries -/

theorem Binding.Alike.column {b b' : Binding} (alike : b.Alike b') (name : String) :
    (b'.column name).map wrappingSum = (b.column name).map wrappingSum := by
  have same := congrArg (Keyed.get? · name) alike.totals
  simp only [ScopeMeter.totals, Keyed.get?_map] at same
  simp only [Binding.column, Option.map_map]
  exact same.symm

namespace Report

/-- The total of a sum of columns is the sum of their totals. -/
theorem map_sumColumns (columns : List (Option (List Int64))) :
    (sumColumns columns).map wrappingSum =
      (columns.map (Option.map wrappingSum)).foldr (Option.merge (· + ·)) none := by
  induction columns with
  | nil => rfl
  | cons c columns ih =>
    rw [sumColumns_cons, List.map_cons, List.foldr_cons, ← ih]
    cases c with
    | none => rw [Option.merge_none_left, Option.map_none, Option.merge_none_left]
    | some xs =>
      cases sumColumns columns with
      | none => rfl
      | some ys => exact congrArg some (wrappingSum_addSeries xs ys)

theorem columnOf_alike {bs bs' : List Binding} (alike : List.Forall₂ Binding.Alike bs bs')
    (name : String) :
    (columnOf bs' name).map wrappingSum = (columnOf bs name).map wrappingSum := by
  rw [columnOf, columnOf, map_sumColumns, map_sumColumns]
  congr 1
  induction alike with
  | nil => rfl
  | cons head _ ih =>
    rw [List.map_cons, List.map_cons, ih, head.column, List.map_cons, List.map_cons]

/-- Entries with the same fields, the same totals and the same labels. -/
structure SameTotals (x y : Keyed Json) : Prop where
  keys : x.keys = y.keys
  sums : x.get? sumKey = y.get? sumKey
  thread : x.get? threadKey = y.get? threadKey
  device : x.get? deviceKey = y.get? deviceKey

theorem SameTotals.refl (x : Keyed Json) : SameTotals x x := ⟨rfl, rfl, rfl, rfl⟩

variable {x y labels : Keyed Json} {column column' : String → Option (List Int64)}

theorem Shows.sameTotals (left : Shows x labels column) (right : Shows y labels column')
    (total : ∀ name, (column' name).map wrappingSum = (column name).map wrappingSum)
    (thread : column threadKey = none) (device : column deviceKey = none) : SameTotals x y := by
  have present : ∀ name, (column' name).isSome = (column name).isSome := by
    intro name
    have same := congrArg Option.isSome (total name)
    rwa [Option.isSome_map, Option.isSome_map] at same
  have sums := left.sums_congr right total
  have label : ∀ name, name ≠ sumKey → column name = none → x.get? name = y.get? name := by
    intro name apart free
    have free' : column' name = none := by
      rw [← Option.not_isSome_iff_eq_none, present, free]
      nofun
    rw [left.field name apart, right.field name apart, free, free']
  have fields : x.map (fun _ => ()) = y.map fun _ => () := by
    apply Keyed.ext_get?
    intro name
    rw [Keyed.get?_map, Keyed.get?_map]
    by_cases here : name = sumKey
    · rw [here, sums]
    · rw [left.field name here, right.field name here]
      have same := present name
      cases shown : column name <;> cases shown' : column' name <;> rw [shown, shown'] at same <;>
        first | rfl | cases same
  have keys : ∀ m : Keyed Json, (m.map fun _ => ()).keys = m.keys := by
    intro m
    rw [Keyed.keys, Keyed.map, List.map_map]
    rfl
  refine ⟨?_, sums, label _ (by decide) thread, label _ (by decide) device⟩
  rw [← keys x, fields, keys]

end Report

/-! ## Documents -/

namespace Report

variable {bs bs' : List Binding}

theorem ofRole_alike (alike : List.Forall₂ Binding.Alike bs bs') (role : Role) :
    List.Forall₂ Binding.Alike (ofRole bs role) (ofRole bs' role) := by
  apply List.rel_filter _ alike
  intro b b' alike
  rw [alike.bare]

theorem FreelyNamed.ofRole (named : FreelyNamed bs) (role : Role) :
    FreelyNamed (ofRole bs role) :=
  fun b member => named b (List.mem_of_mem_filter member)

theorem FreelyNamed.append (named : FreelyNamed bs) (named' : FreelyNamed bs') :
    FreelyNamed (bs ++ bs') :=
  List.forall_mem_append.mpr ⟨named, named'⟩

theorem freelyNamed_workload (named : FreelyNamed bs) :
    FreelyNamed (ofRole bs .replay ++ ofRole bs .cspmu ++ ofRole bs .interconnect) :=
  ((named.ofRole .replay).append (named.ofRole .cspmu)).append (named.ofRole .interconnect)

/-- Alike bindings have entries with the same totals. -/
theorem bindingEntry_alike (alike : List.Forall₂ Binding.Alike bs bs') (named : FreelyNamed bs)
    (named' : FreelyNamed bs') :
    List.Forall₂ (fun b b' => SameTotals (bindingEntry b) (bindingEntry b') ∧
      SameTotals (clockEntry b) (clockEntry b')) bs bs' := by
  induction alike with
  | nil => exact .nil
  | @cons b b' bs bs' head _ ih =>
    have shown := shows_bindingEntry named List.mem_cons_self
    have shown' := shows_bindingEntry named' List.mem_cons_self
    have labelled : labels b'.name b'.namedDevice? = labels b.name b.namedDevice? := by
      rw [head.bare]
      rfl
    have clock : clockEntry b' = clockEntry b := by
      rw [head.bare]
      rfl
    rw [labelled] at shown'
    refine .cons ⟨shown.sameTotals shown' head.column ?_ ?_, by rw [clock]; exact .refl _⟩
      (ih (List.forall_mem_cons.mp named).2 (List.forall_mem_cons.mp named').2)
    · exact named.column_eq_none List.mem_cons_self (by decide)
    · exact named.column_eq_none List.mem_cons_self (by decide)

theorem aggregateEntry_alike (alike : List.Forall₂ Binding.Alike bs bs') (named : FreelyNamed bs)
    (named' : FreelyNamed bs') (a : Aggregate) :
    SameTotals (aggregateEntry a.entry bs) (aggregateEntry a.entry bs') :=
  (shows_aggregateEntry named a).sameTotals (shows_aggregateEntry named' a)
    (columnOf_alike alike) (named.columnOf_eq_none (by decide)) (named.columnOf_eq_none (by decide))

/-- Alike bindings make documents whose entries have the same totals. -/
theorem entries_alike (alike : List.Forall₂ Binding.Alike bs bs') (named : FreelyNamed bs)
    (named' : FreelyNamed bs') (allThread : Bool) :
    List.Forall₂ SameTotals (entries allThread bs) (entries allThread bs') := by
  have own := fun role => bindingEntry_alike (ofRole_alike alike role) (named.ofRole role)
    (named'.ofRole role)
  have plain : ∀ role, List.Forall₂ SameTotals ((ofRole bs role).map bindingEntry)
      ((ofRole bs' role).map bindingEntry) := by
    intro role
    rw [List.forall₂_map_left_iff, List.forall₂_map_right_iff]
    exact (own role).imp fun _ _ same => same.1
  have units : List.Forall₂ SameTotals
      ((ofRole bs .cspmu).flatMap fun b => [bindingEntry b, clockEntry b])
      ((ofRole bs' .cspmu).flatMap fun b => [bindingEntry b, clockEntry b]) := by
    apply List.rel_flatMap (own .cspmu)
    intro b b' same
    exact .cons same.1 (.cons same.2 .nil)
  have workload := List.rel_append (List.rel_append (ofRole_alike alike .replay)
    (ofRole_alike alike .cspmu)) (ofRole_alike alike .interconnect)
  have front := freelyNamed_workload named
  have front' := freelyNamed_workload named'
  have background := ofRole_alike alike .background
  have back := named.ofRole .background
  have back' := named'.ofRole .background
  rw [entries_eq, entries_eq]
  refine List.rel_append (List.rel_append (List.rel_append (List.rel_append (plain .replay) units)
    (plain .interconnect)) (.cons (aggregateEntry_alike workload front front' .replay) .nil)) ?_
  cases allThread with
  | false => exact .nil
  | true =>
    refine List.rel_append (plain .background) (.cons ?_ (.cons ?_ .nil))
    · exact aggregateEntry_alike background back back' .background
    · have free : ∀ key ∈ [sumKey, threadKey, deviceKey], sumColumns
          [columnOf (ofRole bs .replay ++ ofRole bs .cspmu ++ ofRole bs .interconnect) key,
            columnOf (ofRole bs .background) key] = none := by
        intro key used
        rw [front.columnOf_eq_none used, back.columnOf_eq_none used]
        rfl
      refine (shows_all front back).sameTotals (shows_all front' back') ?_
        (free _ (by decide)) (free _ (by decide))
      intro name
      simp only [map_sumColumns, List.map_cons, columnOf_alike workload,
        columnOf_alike background]

end Report

namespace Engine

open Report

/-- A run and the same run without summing up make documents with the same entries: these have the
same fields, the same labels and the same totals, whatever else is done and fails in between. -/
theorem totals_without_summarize (name : String) (config : Json) (perApi : Bool) (h : Host)
    (acts : List Act) :
    let e := (fresh name config perApi h).run acts
    let e' := (fresh name config perApi h).run (acts.filter fun a => !a.isSummarize)
    ∃ xs ys : List (Keyed Json),
      (e.next .postprocess).collector.result.field? "thread_data" =
        some (.arr (xs.map Json.ofKeyed)) ∧
      (e'.next .postprocess).collector.result.field? "thread_data" =
        some (.arr (ys.map Json.ofKeyed)) ∧
      List.Forall₂ SameTotals xs ys := by
  intro e e'
  have alike : Alike e e' := (Alike.refl _).run acts
  have named : ∀ acts, FreelyNamed ((fresh name config perApi h).run acts).bindings := fun acts =>
    ((planned_fresh name config perApi h).run acts).freelyNamed
      (lasting_filed.forall_run (List.forall_mem_nil _) acts)
  have same := entries_alike alike.bindings (named _) (named _) e.collector.plan.allThread
  refine ⟨_, _, field?_document .., field?_document .., ?_⟩
  have plan : e'.collector.plan = e.collector.plan := alike.plan
  rw [plan]
  exact same

/-- The columns themselves differ. -/
example :
    let acts := [.init sampleSite, .start, .outside (.tick (-1) none [5]), .collect 1,
      .outside (.tick (-1) none [2]), .collect 2, .summarize, .collect 3]
    (sampleEngine.run acts).bindings.map (·.column "flits") = [some [7, 0]] ∧
      (sampleEngine.run (acts.filter fun a => !a.isSummarize)).bindings.map (·.column "flits") =
        [some [5, 2, 0]] := by
  cbv
  decide

end Engine

end ScopeMeter

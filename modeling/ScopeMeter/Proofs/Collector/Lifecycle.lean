import ScopeMeter.Proofs.Collector.Opening
import ScopeMeter.Proofs.Collector.Switching

/-!
# The life of a collector

Whatever is done with a collector and whichever calls fail, short of a stop that the kernel
refuses, its bindings and the kernel agree: every live counter belongs to one binding, laid out as
the plan says, and the counters are switched on exactly while the collector is started
(`Engine.lifecycle`).
-/

namespace ScopeMeter

/-! ## What every act keeps -/

namespace Engine

/-- The bindings are the same, with the same counters, between two moments of an engine. -/
structure Kept (e e' : Engine) : Prop where
  bindings : List.Forall₂ Binding.SameMake e.bindings e'.bindings
  counters : e.host.SameCounters e'.host
  plan : e'.collector.plan = e.collector.plan
  unprepared : e'.collector.state = .uninitialized → e.collector.state = .uninitialized

theorem Kept.of_host {e e' : Engine} (collector : e'.collector = e.collector)
    (counters : e.host.SameCounters e'.host) : Kept e e' := by
  refine ⟨?_, counters, by rw [collector], by rw [collector]; exact id⟩
  have bindings : e'.bindings = e.bindings := congrArg Collector.bindings collector
  rw [bindings]
  exact List.forall₂_same.mpr fun b _ => .refl b

theorem Kept.refl (e : Engine) : Kept e e := .of_host rfl (.refl _)

theorem Kept.of_sweep (e : Engine) {op : Binding → Host → Outcome Binding (Except Error Unit)}
    (isLocal : Collector.IsLocal op) (notice : Binding → Error → Notice) {c : Collector}
    (plan : c.plan = e.collector.plan)
    (unprepared : c.state = .uninitialized → e.collector.state = .uninitialized) :
    Kept e ⟨{ c with bindings := (Collector.sweep op notice e.bindings e.host).next },
      (Collector.sweep op notice e.bindings e.host).host⟩ :=
  ⟨isLocal.sameMake_sweep _ _, isLocal.sameCounters_sweep _ _ _, plan, unprepared⟩

/-- Preparing and closing apart, an act keeps the bindings and their counters. -/
theorem kept_next (e : Engine) {a : Act} (opens : ∀ site, a ≠ .init site) (closes : a ≠ .deinit) :
    Kept e (e.next a) := by
  cases a with
  | init site => exact absurd rfl (opens site)
  | deinit => exact absurd rfl closes
  | start =>
    have make := Collector.sameMake_startAll [] e.bindings e.host
    have counters := Collector.sameCounters_startAll [] e.bindings e.host
    rcases e.start_cases with ⟨_, _, same⟩ | ⟨_, _, same⟩ |
      ⟨_, prepared, ⟨_, _, next⟩ | ⟨_, _, next⟩⟩
    · rw [same]
      exact .refl e
    · rw [same]
      exact .of_host rfl (Host.unchanged_note ..).same
    · rw [next]
      exact ⟨make, counters, rfl, nofun⟩
    · rw [next]
      exact ⟨make, counters, rfl, id⟩
  | stop =>
    rw [next_stop]
    split
    next started =>
      have kept := Kept.of_sweep e Collector.isLocal_stop (fun b e => .stopFailed b.name e)
        (c := { e.collector with state := .stopped, collecting := false }) rfl nofun
      exact kept
    next => exact .refl e
  | collect now =>
    rw [next_collect]
    split
    · exact .of_sweep e (Collector.isLocal_collect now) _ rfl id
    · exact .refl e
  | scope call id mask tid =>
    rw [next_scope]
    split
    · exact .of_sweep e (Collector.isLocal_scopeStep call id mask tid) _ rfl fun is => is
    · exact .refl e
  | clear =>
    rw [next_clear]
    split
    · exact .refl e
    · refine ⟨?_, .refl _, rfl, id⟩
      exact List.forall₂_map_right_iff.mpr
        (List.forall₂_same.mpr fun b _ => ⟨rfl, rfl, rfl, rfl, rfl⟩)
  | summarize =>
    refine ⟨?_, .refl _, rfl, id⟩
    exact List.forall₂_map_right_iff.mpr
      (List.forall₂_same.mpr fun b _ => ⟨rfl, rfl, rfl, rfl, rfl⟩)
  | postprocess =>
    exact ⟨List.forall₂_same.mpr fun b _ => .refl b, .refl _, rfl, id⟩
  | outside stimulus => exact .of_host rfl (e.host.sameCounters_meet stimulus)

/-- The live counters are those of the bindings, laid out as the plan says. -/
structure Laid (e : Engine) : Prop where
  valid : e.Valid
  unplanned : e.collector.state = .uninitialized → e.collector.plan = {}
  layout : e.host.identities = e.bindings.flatMap e.collector.plan.layout
  covers : ∀ b ∈ e.bindings, e.collector.plan.Covers b

variable {e : Engine} {h : Host}

theorem Laid.of_kept (laid : e.Laid) {e' : Engine} (valid : e'.Valid) (kept : Kept e e') :
    e'.Laid := by
  obtain ⟨make, counters, plan, unprepared⟩ := kept
  refine ⟨valid, fun is => plan.trans (laid.unplanned (unprepared is)), ?_, ?_⟩
  · rw [counters.identities, laid.layout, plan, Plan.flatMap_layout make]
  · intro b' member
    obtain ⟨b, old, make⟩ := Collector.exists_of_mem_right make member
    rw [plan]
    exact (laid.covers b old).of_sameMake make

/-- While a collector is not prepared there are no counters. -/
theorem Laid.counters_eq_nil (laid : e.Laid) (unprepared : e.collector.state = .uninitialized) :
    e.host.counters = [] := by
  have layout := laid.layout
  rw [laid.valid.unprepared unprepared, List.flatMap_nil] at layout
  exact List.map_eq_nil_iff.mp layout

/-- The leader of a live counter is that of a binding. -/
theorem Laid.leader_mem (laid : e.Laid) {c : LiveCounter} (live : c ∈ e.host.counters) :
    some c.leader ∈ e.bindings.map (·.group.leader?) := by
  have listed : c.identity ∈ e.host.identities := List.mem_map_of_mem live
  rw [laid.layout] at listed
  obtain ⟨b, member, listed⟩ := List.mem_flatMap.mp listed
  obtain ⟨_, _, same⟩ := List.mem_map.mp listed
  obtain ⟨_, leader, holds⟩ := laid.valid.owned.holds b member
  have leads : b.group.leader?.getD 0 = c.leader := congrArg LiveCounter.leader same
  rw [holds.opened, Option.getD_some] at leads
  rw [← leads, ← holds.opened]
  exact List.mem_map_of_mem member

theorem handles_eq (layout : e.host.identities = e.bindings.flatMap e.collector.plan.layout)
    (covers : ∀ b ∈ e.bindings, e.collector.plan.Covers b) :
    e.host.counters.map (·.handle) = e.bindings.flatMap (·.group.handles) := by
  have handles : e.host.counters.map (·.handle) = e.host.identities.map (·.handle) := by
    rw [Host.identities, List.map_map]
    rfl
  rw [handles, layout, List.map_flatMap]
  apply List.flatMap_congr
  intro b member
  exact (covers b member).handles_layout

/-- A closed collector leaves no counter open. -/
theorem Laid.counters_deinit (laid : e.Laid) : (e.next .deinit).host.counters = [] := by
  have closed : (e.next .deinit).host = Collector.closeBindings e.bindings e.host := rfl
  rw [closed, Collector.counters_closeBindings, List.filter_eq_nil_iff]
  intro c live
  have handle : c.handle ∈ e.host.counters.map (·.handle) := List.mem_map_of_mem live
  rw [handles_eq laid.layout laid.covers] at handle
  simpa using handle

theorem Laid.deinit (laid : e.Laid) : (e.next .deinit).Laid := by
  have none := laid.counters_deinit
  refine ⟨laid.valid.next .deinit, fun _ => rfl, ?_, List.forall_mem_nil _⟩
  rw [Host.identities, none]
  rfl

theorem Laid.init (laid : e.Laid) (site : Site) : (e.next (.init site)).Laid := by
  have valid := laid.valid.next (.init site)
  by_cases unprepared : e.collector.state = .uninitialized
  · obtain ⟨_, _, outcome⟩ := e.init_made laid.valid.owned.sound site unprepared
    rcases outcome with ⟨_, kept, counters, _⟩ |
      ⟨_, config, specs, bindings, _, _, _, _, become, _, grown, covers⟩
    · refine ⟨valid, ?_, ?_, ?_⟩
      · rw [kept]
        exact laid.unplanned
      · rw [Host.identities, counters, Engine.bindings, kept]
        exact laid.layout
      · rw [Engine.bindings, kept]
        exact laid.covers
    · have none : e.host.identities = [] := by
        rw [Host.identities, laid.counters_eq_nil unprepared, List.map_nil]
      have layout := grown.identities
      rw [none, List.nil_append] at layout
      refine ⟨valid, ?_, ?_, ?_⟩
      · rw [become]
        intro unprepared
        cases unprepared
      · rw [Engine.bindings, become]
        exact layout
      · rw [Engine.bindings, become]
        exact covers
  · rw [e.next_init_of_prepared site unprepared] at valid ⊢
    exact laid.of_kept valid (.of_host rfl (Host.unchanged_note ..).same)

theorem Laid.next (laid : e.Laid) (a : Act) : (e.next a).Laid := by
  by_cases closes : a = .deinit
  · rw [closes]
    exact laid.deinit
  · by_cases opens : ∃ site, a = .init site
    · obtain ⟨site, rfl⟩ := opens
      exact laid.init site
    · exact laid.of_kept (laid.valid.next a) (e.kept_next (not_exists.mp opens) closes)

/-- Calls are only ever recorded behind those before. -/
theorem Laid.recorded_next (laid : e.Laid) (a : Act) : e.host.trace <+: (e.next a).host.trace := by
  by_cases closes : a = .deinit
  · rw [closes]
    have trace : (e.next .deinit).host.trace = e.host.trace := Collector.trace_closeBindings ..
    exact ⟨[], (List.append_nil _).trans trace.symm⟩
  · by_cases opens : ∃ site, a = .init site
    · obtain ⟨site, rfl⟩ := opens
      by_cases unprepared : e.collector.state = .uninitialized
      · obtain ⟨calls, made, _⟩ := e.init_made laid.valid.owned.sound site unprepared
        exact ⟨calls, made.trace.symm⟩
      · rw [e.next_init_of_prepared site unprepared]
        exact (Host.unchanged_note ..).recorded
    · exact (e.kept_next (not_exists.mp opens) closes).counters.recorded

/-- The counters are switched on exactly while the collector is started. -/
def Switched (e : Engine) : Prop := e.host.Running fun _ => e.collector.state = .started

theorem Switched.init (laid : e.Laid) (switched : e.Switched) (site : Site) :
    (e.next (.init site)).Switched := by
  unfold Switched
  by_cases unprepared : e.collector.state = .uninitialized
  · obtain ⟨_, _, outcome⟩ := e.init_made laid.valid.owned.sound site unprepared
    rcases outcome with ⟨_, kept, counters, _⟩ | ⟨_, _, _, _, _, _, _, _, become, _, grown, _⟩
    · rw [kept]
      exact switched.of_counters counters
    · have idle : e.host.Running fun _ => False := .of_eq_nil (laid.counters_eq_nil unprepared)
      rw [become]
      exact (grown.idle idle).congr fun _ => ⟨False.elim, nofun⟩
  · rw [e.next_init_of_prepared site unprepared]
    exact switched.of_unchanged (Host.unchanged_note ..)

theorem Switched.start (laid : e.Laid) (switched : e.Switched)
    (stops : (e.next .start).host.failedStops ≤ e.host.failedStops) :
    (e.next .start).Switched := by
  have laid' := laid.next .start
  rcases e.start_cases with ⟨_, _, same⟩ | ⟨_, _, same⟩ |
    ⟨idle, _, ⟨ok, _, next⟩ | ⟨fails, _, next⟩⟩
  · rw [same]
    exact switched
  · rw [same]
    exact switched.of_unchanged (Host.unchanged_note ..)
  · have off : e.host.Running fun leader =>
        some leader ∈ ([] : List Binding).map (·.group.leader?) :=
      switched.congr fun _ => iff_of_false idle List.not_mem_nil
    have kept := leaders_of_sameMake (Collector.sameMake_startAll [] e.bindings e.host)
    rw [next] at stops laid' ⊢
    have on := (Collector.running_startAll [] e.bindings off stops).1 ok
    rw [← kept] at on
    exact fun c live => (on c live).trans (iff_of_true (laid'.leader_mem live) rfl)
  · have off : e.host.Running fun leader =>
        some leader ∈ ([] : List Binding).map (·.group.leader?) :=
      switched.congr fun _ => iff_of_false idle List.not_mem_nil
    rw [next] at stops ⊢
    have undone := (Collector.running_startAll [] e.bindings off stops).2 fails
    exact undone.congr fun _ => ⟨False.elim, idle⟩

theorem Switched.stop (laid : e.Laid) (switched : e.Switched)
    (stops : (e.next .stop).host.failedStops ≤ e.host.failedStops) :
    (e.next .stop).Switched := by
  have laid' := laid.next .stop
  have make : List.Forall₂ Binding.SameMake e.bindings (Collector.stopAll e.bindings e.host).next :=
    Collector.isLocal_stop.sameMake_sweep e.bindings e.host
  have kept := leaders_of_sameMake make
  rw [next_stop] at stops laid' ⊢
  split at stops
  next started =>
    rw [if_pos started] at laid' ⊢
    have off := Collector.running_sweep_stop (fun b e => .stopFailed b.name e) e.bindings switched
      stops
    rw [← kept] at off
    intro c live
    refine (off c live).trans (iff_of_false ?_ nofun)
    exact fun both => both.2 (laid'.leader_mem live)
  next idle =>
    rw [if_neg idle]
    exact switched

/-- An act in which the kernel refuses no stop keeps the switches and the state together. -/
theorem Switched.next (laid : e.Laid) (switched : e.Switched) {a : Act}
    (stops : (e.next a).host.failedStops ≤ e.host.failedStops) : (e.next a).Switched := by
  cases a with
  | init site => exact switched.init laid site
  | deinit => exact .of_eq_nil laid.counters_deinit
  | start => exact switched.start laid stops
  | stop => exact switched.stop laid stops
  | collect now =>
    rw [next_collect]
    split
    · apply Collector.running_sweep _ _ _ switched
      intro b h running
      obtain ⟨_, unchanged, _⟩ := b.collect_eq now h
      exact (b.group.running_collect now running).of_unchanged unchanged
    · exact switched
  | scope call id mask tid =>
    rw [next_scope]
    split
    · apply Collector.running_sweep _ _ _ switched
      intro b h running
      exact running.of_unchanged (Collector.scopeStep_cases call id mask tid b h).1
    · exact switched
  | clear =>
    rw [next_clear]
    split <;> exact switched
  | summarize => exact switched
  | postprocess => exact switched
  | outside stimulus => exact switched.meet stimulus

/-! ## Runs -/

/-- What a collector was made with. -/
def settings (e : Engine) : String × Json × Bool :=
  (e.collector.name, e.collector.config, e.collector.perApi)

theorem settings_next (e : Engine) (a : Act) : (e.next a).settings = e.settings := by
  cases a with
  | init site =>
    rcases e.init_cases site with ⟨_, next⟩ | ⟨_, ⟨_, _, _, next⟩ | ⟨_, _, next⟩⟩
    · rw [next]
      rfl
    · rw [next]
      rfl
    · rw [next]
      rfl
  | start =>
    rcases e.start_cases with ⟨_, _, next⟩ | ⟨_, _, next⟩ | ⟨_, _, ⟨_, _, next⟩ | ⟨_, _, next⟩⟩
    · rw [next]
    · rw [next]
      rfl
    · rw [next]
      rfl
    · rw [next]
      rfl
  | stop =>
    rw [next_stop]
    split <;> rfl
  | collect now =>
    rw [next_collect]
    split <;> rfl
  | scope call id mask tid =>
    rw [next_scope]
    split <;> rfl
  | clear =>
    rw [next_clear]
    split <;> rfl
  | deinit => rfl
  | summarize => rfl
  | postprocess => rfl
  | outside stimulus => rfl

theorem settings_run (e : Engine) (acts : List Act) : (e.run acts).settings = e.settings := by
  induction acts generalizing e with
  | nil => rfl
  | cons a acts ih => exact (ih (e.next a)).trans (e.settings_next a)

theorem laid_fresh (none : h.counters = []) (name : String) (config : Json) (perApi : Bool) :
    (fresh name config perApi h).Laid := by
  have valid := valid_fresh name config perApi (.of_counters_eq_nil none)
  have layout := congrArg (List.map LiveCounter.identity) none
  exact ⟨valid, fun _ => rfl, layout, List.forall_mem_nil _⟩

theorem Laid.run (laid : e.Laid) (acts : List Act) :
    (e.run acts).Laid ∧ e.host.trace <+: (e.run acts).host.trace := by
  induction acts generalizing e with
  | nil => exact ⟨laid, List.prefix_rfl⟩
  | cons a acts ih =>
    obtain ⟨laid', recorded⟩ := ih (laid.next a)
    exact ⟨laid', (laid.recorded_next a).trans recorded⟩

/-- A run in which the kernel refuses no stop keeps the switches and the state together. -/
theorem Switched.run (laid : e.Laid) (switched : e.Switched) {acts : List Act}
    (stops : (e.run acts).host.failedStops ≤ e.host.failedStops) : (e.run acts).Switched := by
  induction acts generalizing e with
  | nil => exact switched
  | cons a acts ih =>
    have first := Host.failedStops_mono (laid.recorded_next a)
    have rest := Host.failedStops_mono ((laid.next a).run acts).2
    rw [run_cons] at stops ⊢
    exact ih (laid.next a) (switched.next laid (Nat.le_trans rest stops)) (Nat.le_trans stops first)

/-- Whatever is done with a collector on a machine without counters, and whichever calls fail, as
long as the kernel refuses no stop: rounds are taken exactly while it is started; before it is
prepared, and after it is closed, it has neither bindings nor a plan, and no counter is live; and
otherwise the live counters are exactly those of the bindings, one for each event in the order of
the plan with the first as the leader, all of them switched on exactly while it is started.
Closing it makes it as new. -/
theorem lifecycle (none : h.counters = []) (name : String) (config : Json) (perApi : Bool)
    (acts : List Act) :
    let e := (fresh name config perApi h).run acts
    e.host.failedStops = h.failedStops →
      (e.collector.collecting = true ↔ e.collector.state = .started) ∧
      (e.collector.state = .uninitialized →
        e.bindings = [] ∧ e.collector.plan = {} ∧ e.host.counters = []) ∧
      (e.host.counters.map (·.handle) = e.bindings.flatMap (·.group.handles) ∧
        (e.bindings.flatMap (·.group.handles)).Nodup) ∧
      (e.host.identities = e.bindings.flatMap e.collector.plan.layout ∧
        ∀ b ∈ e.bindings,
          b.group.names = (e.collector.plan.eventsFor b.device).map (·.name) ∧
          ∃ leader, b.group.leader? = some leader) ∧
      (∀ c ∈ e.host.counters, c.enabled = true ↔ e.collector.state = .started) ∧
      (e.next .deinit).collector = (fresh name config perApi h).collector ∧
      (e.next .deinit).host.counters = [] := by
  intro e stops
  have begun := laid_fresh none name config perApi
  have laid : e.Laid := (begun.run acts).1
  have switched : e.Switched := by
    apply Switched.run begun (.of_eq_nil none)
    exact Nat.le_of_eq stops
  have handles := handles_eq laid.layout laid.covers
  have settings : e.settings = (name, config, perApi) := settings_run _ acts
  refine ⟨laid.valid.collecting, ?_, ⟨handles, ?_⟩, ⟨laid.layout, ?_⟩, switched, ?_,
    laid.counters_deinit⟩
  · exact fun unprepared => ⟨laid.valid.unprepared unprepared, laid.unplanned unprepared,
      laid.counters_eq_nil unprepared⟩
  · rw [← handles]
    exact laid.valid.owned.sound.nodup_handles
  · intro b member
    obtain ⟨_, leader, holds⟩ := laid.valid.owned.holds b member
    exact ⟨laid.covers b member, leader, holds.opened⟩
  · have closed : (e.next .deinit).collector =
        (fresh e.settings.1 e.settings.2.1 e.settings.2.2 h).collector := rfl
    rw [closed, settings]

/-- Two coherent subsystem units, one of them with two events. -/
def sampleUnit (device name : String) (code : Int) : Json :=
  .arr [.str name, .int code, .null, .str device, .null, .null, .null, .null, .bool true, .null,
    .null]

def sampleMachine : Site :=
  { sampleSite with
    files := .dir [("east", .dir [("type", .file (some "8\n"))]),
      ("west", .dir [("type", .file (some "9\n"))])] }

def sampleDocument : Json :=
  .arr [.null, .null, .arr [sampleUnit "east" "reads" 3, sampleUnit "west" "reads" 3,
    sampleUnit "west" "writes" 4]]

/-- The first start fails at the second unit. -/
def sampleRestart : List Act :=
  [.init sampleMachine,
    .outside (.fault { call := .control .enable, skip := 1, effect := .fail .noSpace }), .start,
    .start]

theorem lifecycle_sampleRestart :
    let e := (fresh "perf" sampleDocument false {}).run sampleRestart
    e.host.failedStops = 0 ∧ e.collector.state = .started ∧
      e.bindings.flatMap (·.group.handles) = [1000, 1001, 1002] ∧
      (∀ c ∈ e.host.counters, c.enabled = true ↔ e.collector.state = .started) ∧
      (e.next .deinit).host.counters = [] := by
  intro e
  have reached : (e.host.failedStops, e.collector.state, e.host.counters.map (·.handle)) =
      (0, .started, [1000, 1001, 1002]) := by
    simp only [e]
    cbv
  rw [Prod.mk.injEq, Prod.mk.injEq] at reached
  obtain ⟨stops, started, handles⟩ := reached
  obtain ⟨_, _, ⟨owned, _⟩, _, switched, _, closed⟩ :=
    lifecycle rfl "perf" sampleDocument false sampleRestart stops
  exact ⟨stops, started, owned.symm.trans handles, switched, closed⟩

end Engine

end ScopeMeter

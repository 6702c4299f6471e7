import ScopeMeter.Proofs.Collector.Run
import ScopeMeter.Proofs.Group.Setup
import ScopeMeter.Proofs.Plan.Discovery

/-!
# Preparing a collector

The bindings that a plan needs are opened one after the other.  Either all calls succeed, and then
they are exactly those of `setupCalls`, one group behind the other; or one of them fails, or a
group has too many events, and then everything is closed again.
-/

namespace ScopeMeter

/-- The thread and the processor that a binding counts: its own thread on every processor, or
every thread on processor 0. -/
def BindingSpec.target (s : BindingSpec) : Int32 × Int32 :=
  if s.device.isThreadBound then (s.tid.getD (-1), -1) else (-1, 0)

namespace Plan

/-- The calls that open the bindings of a plan from a handle on. -/
def setupCalls (p : Plan) : Nat → List BindingSpec → List CallRecord
  | _, [] => []
  | handle, s :: specs =>
    groupCalls s.target.1 s.target.2 handle (p.eventsFor s.device) ++
      p.setupCalls (handle + (p.eventsFor s.device).length) specs

/-- The counters of a binding: one for each event of its class, with the first as the leader. -/
def layout (p : Plan) (b : Binding) : List LiveCounter :=
  (b.group.handles.zip (p.eventsFor b.device)).map fun c =>
    { handle := c.1, leader := b.group.leader?.getD 0, tid := b.boundTid.getD (-1),
      type := c.2.type, config := c.2.config }

/-- A binding has one counter for each event of its class. -/
def Covers (p : Plan) (b : Binding) : Prop :=
  b.group.names = (p.eventsFor b.device).map (·.name)

variable {p : Plan} {b b' : Binding} {bs bs' : List Binding}

theorem layout_of_sameMake (make : b.SameMake b') : p.layout b' = p.layout b := by
  have thread : b'.boundTid = b.boundTid := by
    rw [Binding.boundTid, Binding.boundTid, make.device, make.tid]
  rw [layout, layout, thread, make.device, Group.handles, Group.handles, Group.leader?,
    Group.leader?, make.members]

theorem flatMap_layout (make : List.Forall₂ Binding.SameMake bs bs') :
    bs'.flatMap p.layout = bs.flatMap p.layout := by
  induction make with
  | nil => rfl
  | cons head _ ih => rw [List.flatMap_cons, List.flatMap_cons, layout_of_sameMake head, ih]

theorem Covers.of_sameMake (covers : p.Covers b) (make : b.SameMake b') : p.Covers b' := by
  rw [Covers, Group.names, make.members, make.device]
  exact covers

/-- The counters of a binding have its handles. -/
theorem Covers.handles_layout (covers : p.Covers b) :
    (p.layout b).map (·.handle) = b.group.handles := by
  have length : b.group.handles.length ≤ (p.eventsFor b.device).length := by
    have names := congrArg List.length covers
    rw [Group.names, List.length_map, List.length_map] at names
    rw [Group.handles, List.length_map]
    omega
  rw [layout, List.map_map]
  exact List.map_fst_zip length

/-- The counters of a binding that was just opened are laid out as its plan says. -/
theorem layout_of_members {spec : BindingSpec} {handle : Nat}
    (members : b.group.members = membersFrom handle (p.eventsFor spec.device))
    (openable : Openable (p.eventsFor spec.device)) (tid : b.tid = spec.tid)
    (device : b.device = spec.device) :
    p.layout b = countersFrom handle spec.target.1 handle (p.eventsFor spec.device) ∧
      p.Covers b := by
  obtain ⟨filled, _⟩ := openable
  have target : b.boundTid.getD (-1) = spec.target.1 := by
    rw [Binding.boundTid, BindingSpec.target, tid, device]
    split <;> rfl
  have leader : b.group.leader? = some handle := by
    rw [Group.leader?, members]
    cases events : p.eventsFor spec.device with
    | nil => exact absurd events filled
    | cons => rfl
  refine ⟨?_, ?_⟩
  · rw [layout, countersFrom, target, leader, Group.handles, members, device,
      zip_handles_membersFrom, List.map_map]
    rfl
  · rw [Covers, Group.names, members, device, names_membersFrom]

end Plan

/-! ## Opening -/

namespace Binding

/-- A binding opens its group for its target. -/
theorem init_eq (spec : BindingSpec) (events : List Event) (h : Host) :
    ∃ tid cpu : Option Int32, tid.getD (-1) = spec.target.1 ∧ cpu.getD (-1) = spec.target.2 ∧
      spec.binding.init events h =
        ⟨(({} : Group).init events tid cpu h).result,
          { spec.binding with
            eventNames := events.map (·.name)
            scopes := .new events.length
            group := (({} : Group).init events tid cpu h).next },
          (({} : Group).init events tid cpu h).host⟩ := by
  have device : spec.binding.device = spec.device := rfl
  unfold init BindingSpec.target
  rw [device]
  cases spec.device.isThreadBound with
  | true => exact ⟨spec.tid, none, rfl, rfl, rfl⟩
  | false => exact ⟨none, some 0, rfl, rfl, rfl⟩

/-- Opening a binding makes a call that fails, unless the number of events is out of bounds; or it
makes exactly the calls that open its group. -/
theorem init_made (spec : BindingSpec) (events : List Event) (h : Host) :
    let after := spec.binding.init events h
    (∃ e calls, after.result = .error e ∧ h.Made after.host calls ∧
      (Openable events → Foiled calls)) ∨
    (after.result = .ok () ∧ Openable events ∧
      after.next.group.members = membersFrom h.nextHandle events ∧
      after.next.tid = spec.tid ∧ after.next.device = spec.device ∧
      h.Made after.host (groupCalls spec.target.1 spec.target.2 h.nextHandle events) ∧
      h.Grown after.host (countersFrom h.nextHandle spec.target.1 h.nextHandle events)) := by
  intro after
  obtain ⟨tid, cpu, thread, processor, become⟩ := init_eq spec events h
  have opens := Group.init_made (g := {}) rfl events tid cpu h
  rw [thread, processor] at opens
  have become : after = _ := become
  rw [become]
  rcases opens with failed | ⟨ok, openable, group, made, grown⟩
  · exact .inl failed
  · exact .inr ⟨ok, openable, congrArg Group.members group, rfl, rfl, made, grown⟩

end Binding

namespace Collector

variable {p : Plan} {opened : List Binding} {base h : Host}

/-- Opening the bindings of a plan makes a call that fails, unless a number of events is out of
bounds; or it makes exactly the calls that open their groups. -/
theorem openAll_made (p : Plan) (opened : List Binding) (specs : List BindingSpec) (h : Host) :
    let after := openAll p opened specs h
    (∃ e calls, after.1 = .error e ∧ h.Made after.2 calls ∧
      ((∀ spec ∈ specs, Openable (p.eventsFor spec.device)) → Foiled calls)) ∨
    (∃ added, after.1 = .ok (opened ++ added) ∧
      (∀ spec ∈ specs, Openable (p.eventsFor spec.device)) ∧
      h.Made after.2 (p.setupCalls h.nextHandle specs) ∧
      h.Grown after.2 (added.flatMap p.layout) ∧ ∀ b ∈ added, p.Covers b) := by
  induction specs generalizing opened h with
  | nil =>
    refine .inr ⟨[], congrArg Except.ok (List.append_nil opened).symm, ?_, .refl h, .refl h, ?_⟩
    · exact List.forall_mem_nil _
    · exact List.forall_mem_nil _
  | cons spec specs ih =>
    intro after
    have step := Binding.init_made spec (p.eventsFor spec.device) h
    have become : after = openAll p opened (spec :: specs) h := rfl
    unfold openAll at become
    dsimp only at step become
    rcases eq : spec.binding.init (p.eventsFor spec.device) h with ⟨result, b, h'⟩
    rw [eq] at step become
    rcases step with ⟨e, calls, failed, made, foiled⟩ |
      ⟨ok, openable, members, tid, device, made, grown⟩
    · cases failed
      rw [become]
      refine .inl ⟨e, calls, rfl, made.of_eq rfl rfl, ?_⟩
      exact fun all => foiled (all spec List.mem_cons_self)
    · cases ok
      dsimp only at become members tid device made grown
      obtain ⟨layout, covers⟩ := Plan.layout_of_members members openable tid device
      rw [← layout] at grown
      have next : h'.nextHandle = h.nextHandle + (p.eventsFor spec.device).length := by
        rw [grown.nextHandle, layout, length_countersFrom]
      have rest := ih (opened ++ [b]) h'
      rw [← become, next] at rest
      rcases rest with ⟨e, calls, failed, made', foiled⟩ |
        ⟨added, ok, openable', made', grown', covers'⟩
      · refine .inl ⟨e, _, failed, made.trans made', ?_⟩
        exact fun all => (foiled (List.forall_mem_cons.mp all).2).append_left _
      · refine .inr ⟨b :: added, ?_, List.forall_mem_cons.mpr ⟨openable, openable'⟩,
          made.trans made', grown.trans grown', List.forall_mem_cons.mpr ⟨covers, covers'⟩⟩
        rw [ok, List.append_assoc]
        rfl

/-! ## Closing again what was opened -/

/-- The machine has opened the groups of bindings behind the counters that it had before. -/
structure Behind (base : Host) (opened : List Binding) (h : Host) : Prop where
  sound : h.Sound
  nextHandle_le : base.nextHandle ≤ h.nextHandle
  added : ∃ cs, h.counters = base.counters ++ cs ∧
    cs.map (·.handle) = opened.flatMap (·.group.handles) ∧ ∀ c ∈ cs, base.nextHandle ≤ c.handle

theorem behind_nil (sound : base.Sound) : Behind base [] base :=
  ⟨sound, Nat.le_refl _, [], (List.append_nil _).symm, rfl, List.forall_mem_nil _⟩

theorem Behind.concat (behind : Behind base opened h) {b : Binding} {h' : Host}
    (opening : Host.Opening h h.nextHandle b.group.members h') :
    Behind base (opened ++ [b]) h' := by
  obtain ⟨_, next_le, cs, split, handles, younger⟩ := behind
  obtain ⟨sound, _, leader_lt, ds, split', handles', led⟩ := opening
  refine ⟨sound, by omega, cs ++ ds, ?_, ?_, ?_⟩
  · rw [split', split, List.append_assoc]
  · rw [List.map_append, handles, handles', List.flatMap_append, List.flatMap_singleton]
    rfl
  · intro c member
    rcases List.mem_append.mp member with old | new
    · exact younger c old
    · have := (led c new).2
      omega

/-- When the bindings of a plan cannot all be opened, the machine has the counters that it had
before. -/
theorem counters_openAll (sound : base.Sound) (behind : Behind base opened h)
    (specs : List BindingSpec) {e : Error} (failed : (openAll p opened specs h).1 = .error e) :
    (openAll p opened specs h).2.counters = base.counters := by
  induction specs generalizing opened h with
  | nil => cases failed
  | cons spec specs ih =>
    unfold openAll at failed ⊢
    rcases spec.binding.init_cases behind.sound (p.eventsFor spec.device) with
      ⟨e', refused, restored⟩ | ⟨ok, _, _, _, _, opening⟩
    · obtain ⟨_, _, cs, split, handles, younger⟩ := behind
      simp only [refused, ← handles]
      exact sound.counters_closeAll (restored.counters.trans split) younger
    · simp only [ok] at failed ⊢
      exact ih (behind.concat opening) failed

/-! ## Preparing -/

end Collector

/-- The bindings of a plan can be found at a site, because the threads can be listed or the plan
has events of coherent subsystem units, and no group of theirs has too many events. -/
def Plan.Feasible (p : Plan) (site : Site) : Prop :=
  (p.cspmuEvents.isEmpty = false ∨
    ∃ threads, Thread.list site.files site.taskDir = .ok threads) ∧
  ∀ specs, p.discover site.files site.taskDir site.processName = .ok specs →
    ∀ spec ∈ specs, (p.eventsFor spec.device).length ≤ maxCounters

/-- The groups of a feasible plan can be opened, because none of them is empty. -/
theorem Plan.Tidy.feasible_cases {p : Plan} (tidy : p.Tidy) (site : Site) :
    (∃ specs, p.discover site.files site.taskDir site.processName = .ok specs ∧
      (∀ spec ∈ specs, spec.device.isThreadBound → ∃ tid, spec.tid = some tid) ∧
      (p.Feasible site ↔ ∀ spec ∈ specs, Openable (p.eventsFor spec.device))) ∨
    (∃ e, p.discover site.files site.taskDir site.processName = .error e ∧ ¬p.Feasible site) := by
  rcases p.discover_cases site.files site.taskDir site.processName with
    ⟨threads, found, listed⟩ | ⟨e, failed, needed, unlisted⟩
  · refine .inl ⟨_, found, fun spec planned => Plan.exists_tid_of_isThreadBound planned, ?_, ?_⟩
    · intro feasible spec planned
      exact ⟨(tidy.opens planned).1, feasible.2 _ found spec planned⟩
    · intro openable
      refine ⟨listed.imp_right fun listed => ⟨threads, listed⟩, ?_⟩
      intro specs found' spec planned
      cases found.symm.trans found'
      exact (openable spec planned).2
  · refine .inr ⟨e, failed, ?_⟩
    rintro ⟨units | ⟨threads, listed⟩, _⟩
    · cases units.symm.trans needed
    · exact unlisted threads listed

namespace Collector

variable {h : Host}

/-- What has to hold around a collector so that it can be prepared: its configuration decodes, and
the plan of the configuration is feasible. -/
def Preparable (c : Collector) (site : Site) : Prop :=
  ∃ config, Config.load c.config = .ok config ∧
    (config.plan site.registry c.perApi none).1.Feasible site

/-- Preparing a collector makes a call that fails, unless it cannot be prepared, and then no
counter is left open; or it makes exactly the calls that open the planned bindings. -/
theorem prepare_made (c : Collector) (site : Site) (sound : h.Sound) :
    let after := c.prepare site h
    ∃ calls, h.Made after.2 calls ∧
      ((∃ e, after.1 = .error e ∧ after.2.counters = h.counters ∧
        (c.Preparable site → Foiled calls)) ∨
      ∃ config specs bindings, Config.load c.config = .ok config ∧
        let p := (config.plan site.registry c.perApi none).1
        p.discover site.files site.taskDir site.processName = .ok specs ∧
        (∀ spec ∈ specs, spec.device.isThreadBound → ∃ tid, spec.tid = some tid) ∧
        p.Feasible site ∧ after.1 = .ok (p, bindings) ∧
        calls = p.setupCalls h.nextHandle specs ∧
        h.Grown after.2 (bindings.flatMap p.layout) ∧ ∀ b ∈ bindings, p.Covers b) := by
  intro after
  have become : after = c.prepare site h := rfl
  unfold prepare at become
  cases loaded : Config.load c.config with
  | error e =>
    rw [loaded] at become
    rw [become]
    refine ⟨[], .refl h, .inl ⟨e, rfl, rfl, ?_⟩⟩
    rintro ⟨config, loads, _⟩
    cases loaded.symm.trans loads
  | ok config =>
    have preparable : c.Preparable site →
        (config.plan site.registry c.perApi none).1.Feasible site := by
      rintro ⟨config', loads, feasible⟩
      cases loaded.symm.trans loads
      exact feasible
    have tidy := config.tidy_plan site.registry c.perApi none
    rw [loaded] at become
    dsimp only at become
    generalize noted : h.noteAll (_ ++ _) = h₁ at become
    have unnoted : h₁.Sound ∧ h.Made h₁ [] ∧ h.Grown h₁ [] ∧ h₁.counters = h.counters := by
      rw [← noted]
      exact ⟨sound.of_same (Host.unchanged_noteAll ..).same, (Host.Made.refl h).of_eq rfl rfl,
        .of_unchanged (Host.unchanged_noteAll ..), rfl⟩
    obtain ⟨sound₁, made₁, grown₁, counters₁⟩ := unnoted
    rcases tidy.feasible_cases site with ⟨specs, found, bound, feasible⟩ | ⟨e, failed, infeasible⟩
    · rw [found] at become
      dsimp only at become
      have opens := openAll_made (config.plan site.registry c.perApi none).1 [] specs h₁
      have closes := fun e => counters_openAll (e := e)
        (p := (config.plan site.registry c.perApi none).1) sound₁ (behind_nil sound₁) specs
      rcases eq : openAll (config.plan site.registry c.perApi none).1 [] specs h₁ with
        ⟨result, h₂⟩
      rw [eq] at opens become closes
      rcases opens with ⟨e, calls, failed, made, foiled⟩ |
        ⟨bindings, ok, openable, made, grown, covers⟩
      · cases failed
        rw [become]
        refine ⟨calls, made₁.trans made, .inl ⟨e, rfl, (closes e rfl).trans counters₁, ?_⟩⟩
        exact fun prepared => foiled (feasible.mp (preparable prepared))
      · cases ok
        rw [become]
        have next : h₁.nextHandle = h.nextHandle := grown₁.nextHandle
        rw [next] at made
        exact ⟨_, made₁.trans made, .inr ⟨config, specs, bindings, rfl, found, bound,
          feasible.mpr openable, rfl, rfl, grown₁.trans grown, covers⟩⟩
    · rw [failed] at become
      rw [become]
      exact ⟨[], made₁, .inl ⟨e, rfl, counters₁,
        fun prepared => absurd (preparable prepared) infeasible⟩⟩

end Collector

/-! ## Calls that all succeed -/

theorem failure?_of_mem_groupCalls {tid cpu : Int32} {handle : Nat} {events : List Event}
    {call : CallRecord} (member : call ∈ groupCalls tid cpu handle events) :
    call.failure? = none := by
  rcases List.mem_append.mp member with opens | quiets
  · cases events with
    | nil => cases opens
    | cons first rest =>
      rcases List.mem_cons.mp opens with rfl | sibling
      · rfl
      · obtain ⟨_, _, rfl⟩ := List.mem_map.mp sibling
        rfl
  · rw [List.mem_cons, List.mem_singleton] at quiets
    rcases quiets with rfl | rfl <;> rfl

theorem Plan.failure?_of_mem_setupCalls {p : Plan} {handle : Nat} {specs : List BindingSpec}
    {call : CallRecord} (member : call ∈ p.setupCalls handle specs) : call.failure? = none := by
  induction specs generalizing handle with
  | nil => cases member
  | cons spec specs ih =>
    rcases List.mem_append.mp member with first | rest
    · exact failure?_of_mem_groupCalls first
    · exact ih rest

namespace Engine

variable {h : Host}

theorem next_init_of_prepared (e : Engine) (site : Site)
    (prepared : e.collector.state ≠ .uninitialized) :
    e.next (.init site) = ⟨e.collector, e.host.note (.alreadyInitialized e.collector.name)⟩ := by
  rcases e.init_cases site with ⟨_, next⟩ | ⟨unprepared, _⟩
  · exact next
  · exact absurd unprepared prepared

theorem answer_init (e : Engine) (site : Site) (unprepared : e.collector.state = .uninitialized) :
    e.answer (.init site) = (e.collector.prepare site e.host).1.isOk := by
  rw [answer_init_eq, decide_eq_true unprepared, Bool.true_and]

/-- A collector that is not prepared is not prepared now either, because it cannot be or because a
call has failed, and then no counter is left open; or it is prepared by exactly the calls that open
the planned bindings. -/
theorem init_made (e : Engine) (sound : e.host.Sound) (site : Site)
    (unprepared : e.collector.state = .uninitialized) :
    let after := e.next (.init site)
    ∃ calls, e.host.Made after.host calls ∧
      ((e.answer (.init site) = false ∧ after.collector = e.collector ∧
        after.host.counters = e.host.counters ∧ (e.collector.Preparable site → Foiled calls)) ∨
      (e.answer (.init site) = true ∧ ∃ config specs bindings,
        Config.load e.collector.config = .ok config ∧
        let p := (config.plan site.registry e.collector.perApi none).1
        p.discover site.files site.taskDir site.processName = .ok specs ∧
        (∀ spec ∈ specs, spec.device.isThreadBound → ∃ tid, spec.tid = some tid) ∧
        p.Feasible site ∧
        after.collector = { e.collector with plan := p, bindings, state := .initialized } ∧
        calls = p.setupCalls e.host.nextHandle specs ∧
        e.host.Grown after.host (bindings.flatMap p.layout) ∧ ∀ b ∈ bindings, p.Covers b)) := by
  intro after
  obtain ⟨calls, made, outcome⟩ := e.collector.prepare_made site sound
  rw [answer_init e site unprepared]
  rcases e.init_cases site with ⟨prepared, _⟩ | ⟨_, ⟨plan, bindings, ready, next⟩ |
    ⟨error, refused, next⟩⟩
  · exact absurd unprepared prepared
  · have next : after = _ := next
    rcases outcome with ⟨_, failed, _⟩ |
      ⟨config, specs, _, loaded, found, bound, feasible, opens, planned, grown, covers⟩
    · cases ready.symm.trans failed
    · cases ready.symm.trans opens
      rw [ready, next]
      exact ⟨calls, made, .inr ⟨rfl, config, specs, bindings, loaded, found, bound, feasible, rfl,
        planned, grown, covers⟩⟩
  · have next : after = _ := next
    rcases outcome with ⟨_, _, counters, foiled⟩ | ⟨_, _, _, _, _, _, _, ready, _⟩
    · rw [refused, next]
      exact ⟨calls, made.of_eq rfl rfl, .inl ⟨rfl, rfl, counters, foiled⟩⟩
    · cases refused.symm.trans ready

/-- A collector that is not prepared can be prepared exactly when its configuration decodes, the
plan is feasible and every call that is made succeeds.  Then the calls are exactly those that open
the groups of the planned bindings one behind the other; otherwise every counter that was opened is
closed again, and the collector stays as it is. -/
theorem init_atomic (sound : h.Sound) (name : String) (config : Json) (perApi : Bool)
    (acts : List Act) (site : Site) :
    let e := (fresh name config perApi h).run acts
    let after := e.next (.init site)
    e.collector.state = .uninitialized →
      ∃ calls, after.host.trace = e.host.trace ++ calls ∧
        (e.answer (.init site) = true ↔
          e.collector.Preparable site ∧ ∀ call ∈ calls, call.failure? = none) ∧
        (e.answer (.init site) = true →
          ∃ c specs, Config.load e.collector.config = .ok c ∧
            let p := (c.plan site.registry e.collector.perApi none).1
            p.discover site.files site.taskDir site.processName = .ok specs ∧
            (∀ spec ∈ specs, spec.device.isThreadBound → ∃ tid, spec.tid = some tid) ∧
            calls = p.setupCalls e.host.nextHandle specs) ∧
        (e.answer (.init site) = false →
          (∀ call ∈ calls, ∀ handle, call.opened? = some handle →
            after.host.find? handle = none) ∧
          after.host.counters = e.host.counters ∧ after.bindings = [] ∧
          after.collector.state = .uninitialized) := by
  intro e after unprepared
  have valid : e.Valid := (valid_fresh name config perApi sound).run acts
  obtain ⟨calls, made, outcome⟩ := e.init_made valid.owned.sound site unprepared
  refine ⟨calls, made.trace, ?_⟩
  rcases outcome with ⟨fails, kept, counters, foiled⟩ |
    ⟨succeeds, c, specs, _, loaded, found, bound, feasible, _, planned, _, _⟩
  · rw [fails]
    refine ⟨iff_of_false nofun ?_, nofun, fun _ => ⟨?_, counters, ?_, ?_⟩⟩
    · rintro ⟨preparable, succeed⟩
      obtain ⟨call, member, fails⟩ := foiled preparable
      exact fails (succeed call member)
    · intro call member handle opens
      apply List.find?_eq_none.mpr
      intro c live same
      rw [decide_eq_true_eq] at same
      have live : c ∈ e.host.counters := by
        rw [← counters]
        exact live
      have older := valid.owned.sound.handle_lt c live
      have younger := made.fresh call member handle opens
      omega
    · exact (congrArg Collector.bindings kept).trans (valid.unprepared unprepared)
    · exact (congrArg Collector.state kept).trans unprepared
  · rw [succeeds]
    refine ⟨iff_of_true rfl ⟨⟨c, loaded, feasible⟩, ?_⟩, ?_, nofun⟩
    · rw [planned]
      exact fun _ => Plan.failure?_of_mem_setupCalls
    · exact fun _ => ⟨c, specs, loaded, found, bound, planned⟩

/-- The second counter is refused. -/
def sampleRefusal : Stimulus :=
  .fault { call := .opening, skip := 1, effect := .fail .noSpace }

theorem init_atomic_sampleRefusal :
    let e := sampleEngine.run [.outside sampleRefusal]
    let after := e.next (.init sampleSite)
    e.collector.state = .uninitialized ∧ e.answer (.init sampleSite) = false ∧
      after.host.trace.map (·.opened?) = [some 1000, none] ∧ after.host.counters = [] ∧
      after.host.find? 1000 = none ∧ after.bindings = [] := by
  intro e after
  have unprepared : e.collector.state = .uninitialized := rfl
  have refused : e.answer (.init sampleSite) = false := by
    simp only [e]
    cbv
  have opens : after.host.trace.map (·.opened?) = [some 1000, none] := by
    simp only [after, e]
    cbv
  obtain ⟨calls, trace, _, _, closed⟩ := init_atomic (.of_counters_eq_nil rfl) _ _ _
    [.outside sampleRefusal] sampleSite unprepared
  obtain ⟨gone, counters, bindings, _⟩ := closed refused
  refine ⟨unprepared, refused, opens, counters, ?_, bindings⟩
  have all : calls = after.host.trace := trace.symm
  have listed : some 1000 ∈ calls.map (·.opened?) := by
    rw [all, opens]
    exact List.mem_cons_self
  obtain ⟨call, member, opened⟩ := List.mem_map.mp listed
  exact gone call member 1000 opened

end Engine

end ScopeMeter

import ScopeMeter.Proofs.Collector.Lifecycle

/-!
# What the bindings of a collector are made for

`Binding.Moved` names all that can become of an open binding.  Apart from preparing and closing,
an act of an engine moves each binding (`Engine.moved_next`), so what no move changes is decided
when the bindings are opened: whom they follow, in which role, and which events they count.
`Engine.Planned` says it of every engine: the bindings are those of its plan, one behind the
other.  A property of single bindings that opening establishes and moves keep holds of all of them
(`Engine.forall_run`).
-/

namespace ScopeMeter

namespace Binding

/-- What a binding was made for. -/
def spec (b : Binding) : BindingSpec := ⟨b.tid, b.name, b.role, b.device⟩

/-- What becomes of a binding that stays open: nothing, or what one operation makes of it on some
machine. -/
inductive Moved : Binding → Binding → Prop
  | stay (b : Binding) : Moved b b
  | collect (b : Binding) (now : Int64) (h : Host) : Moved b (b.collect now h).next
  | scope (b : Binding) (call : ScopeCall) (id : UInt16) (mask : ScopeMask) (tid : Int32)
    (h : Host) : Moved b (Collector.scopeStep call id mask tid b h).next
  | stop (b : Binding) (h : Host) : Moved b (b.stop h).next
  | summarize (b : Binding) : Moved b b.summarize
  | clear (b : Binding) : Moved b b.clear

variable {b b' : Binding}

theorem Moved.sameMake (moved : Moved b b') : b.SameMake b' := by
  cases moved with
  | stay => exact .refl b
  | collect now h => exact b.sameMake_collect now h
  | scope call id mask tid h => exact (Collector.scopeStep_cases call id mask tid b h).2.1
  | stop h => exact b.sameMake_stop h
  | summarize => exact ⟨rfl, rfl, rfl, rfl, rfl⟩
  | clear => exact ⟨rfl, rfl, rfl, rfl, rfl⟩

theorem spec_scopeStep (b : Binding) (call : ScopeCall) (id : UInt16) (mask : ScopeMask)
    (tid : Int32) (h : Host) : (Collector.scopeStep call id mask tid b h).next.spec = b.spec := by
  unfold Collector.scopeStep
  split
  · rfl
  next isOwn _ =>
    cases call with
    | start =>
      rcases (b.scopeStart_cases id mask h).2 with ⟨_, _, next⟩ | ⟨_, _, _, _, next⟩
      · rw [next]
      · rw [next]
        rfl
    | stop =>
      rcases (b.scopeStop_cases id mask isOwn h).2 with ⟨_, _, next⟩ | ⟨_, _, _, _, _, next⟩
      · rw [next]
      · rw [next]
        rfl

theorem Moved.spec_eq (moved : Moved b b') : b'.spec = b.spec := by
  cases moved with
  | stay => rfl
  | collect now h =>
    obtain ⟨_, _, _, next⟩ := b.collect_eq now h
    rw [next]
    rfl
  | scope call id mask tid h => exact b.spec_scopeStep call id mask tid h
  | stop => rfl
  | summarize => rfl
  | clear => rfl

theorem map_spec_of_moved {bs bs' : List Binding} (moved : List.Forall₂ Moved bs bs') :
    bs'.map spec = bs.map spec := by
  induction moved with
  | nil => rfl
  | cons head _ ih => rw [List.map_cons, List.map_cons, ih, head.spec_eq]

end Binding

/-! ## Opening -/

namespace Plan

/-- A binding that was just opened for a plan. -/
def Opened (p : Plan) (spec : BindingSpec) (b : Binding) : Prop :=
  ∃ h, b = (spec.binding.init (p.eventsFor spec.device) h).next

theorem map_spec_of_opened {p : Plan} {specs : List BindingSpec} {bs : List Binding}
    (opened : List.Forall₂ p.Opened specs bs) : bs.map Binding.spec = specs := by
  induction opened with
  | nil => rfl
  | cons head _ ih =>
    obtain ⟨h, rfl⟩ := head
    rw [List.map_cons, ih]
    rfl

theorem exists_opened {p : Plan} {specs : List BindingSpec} {bs : List Binding}
    (opened : List.Forall₂ p.Opened specs bs) {b : Binding} (member : b ∈ bs) :
    ∃ spec ∈ specs, p.Opened spec b := by
  induction opened with
  | nil => cases member
  | cons head _ ih =>
    rcases List.mem_cons.mp member with rfl | member
    · exact ⟨_, List.mem_cons_self, head⟩
    · obtain ⟨spec, mem, opened⟩ := ih member
      exact ⟨spec, List.mem_cons_of_mem _ mem, opened⟩

/-- No event of a tidy plan has a name that result entries use. -/
theorem Tidy.unreserved_eventsFor {p : Plan} (tidy : p.Tidy) (device : DeviceClass) :
    Unreserved (p.eventsFor device) := by
  obtain ⟨ofDevice, ⟨interconnect, _⟩, cspmu⟩ := tidy
  have listed : ∀ {apart : String → Prop} {groups : Keyed (List Event)},
      TidyGroups apart groups → ∀ key, Unreserved ((groups.get? key).getD []) := by
    intro apart groups tidy key
    cases found : groups.get? key with
    | none => exact List.forall_mem_nil _
    | some group => exact (tidy key group found).2.1
  cases device with
  | single => exact listed ofDevice defaultDevice
  | pmu device => exact listed ofDevice device
  | cspmu device => exact listed cspmu device
  | interconnect => exact interconnect

end Plan

namespace Collector

variable {p : Plan} {h : Host}

theorem opened_openAll {opened bs : List Binding} {done specs : List BindingSpec}
    (before : List.Forall₂ p.Opened done opened)
    (ok : (openAll p opened specs h).1 = .ok bs) : List.Forall₂ p.Opened (done ++ specs) bs := by
  induction specs generalizing opened done h with
  | nil =>
    cases ok
    rwa [List.append_nil]
  | cons spec specs ih =>
    unfold openAll at ok
    dsimp only at ok
    split at ok
    · have rest := ih (List.rel_append before (.cons ⟨h, rfl⟩ .nil)) ok
      rwa [List.append_assoc, List.singleton_append] at rest
    · cases ok

/-- What is prepared are the bindings that a tidy plan finds at a place, each of them just
opened. -/
theorem prepare_opened {c : Collector} {site : Site} {bs : List Binding}
    (ok : (c.prepare site h).1 = .ok (p, bs)) :
    p.Tidy ∧ ∃ specs, p.discover site.files site.taskDir site.processName = .ok specs ∧
      List.Forall₂ p.Opened specs bs := by
  unfold prepare at ok
  split at ok
  · cases ok
  next config _ =>
    dsimp only at ok
    have tidy := config.tidy_plan site.registry c.perApi none
    split at ok
    · cases ok
    next specs found =>
      split at ok
      next bindings h' eq =>
        cases ok
        exact ⟨tidy, specs, found, opened_openAll .nil (congrArg Prod.fst eq)⟩
      · cases ok

end Collector

namespace Engine

variable {e : Engine} {h : Host}

/-- Preparing and closing apart, an act moves each binding. -/
theorem moved_next (e : Engine) {a : Act} (opens : ∀ site, a ≠ .init site) (closes : a ≠ .deinit) :
    List.Forall₂ Binding.Moved e.bindings (e.next a).bindings := by
  have same : List.Forall₂ Binding.Moved e.bindings e.bindings :=
    List.forall₂_same.mpr fun b _ => .stay b
  cases a with
  | init site => exact absurd rfl (opens site)
  | deinit => exact absurd rfl closes
  | start =>
    have started : List.Forall₂ Binding.Moved e.bindings
        (Collector.startAll [] e.bindings e.host).next := by
      apply (Collector.startAll_forall₂ [] e.bindings e.host).imp
      rintro b b' (rfl | ⟨h, rfl⟩)
      · exact .stay b'
      · exact .stop b h
    rcases e.start_cases with ⟨_, _, next⟩ | ⟨_, _, next⟩ |
      ⟨_, _, ⟨_, _, next⟩ | ⟨_, _, next⟩⟩
    · rw [next]
      exact same
    · rw [next]
      exact same
    · rw [next]
      exact started
    · rw [next]
      exact started
  | stop =>
    rw [next_stop]
    split
    · apply (Collector.sweep_forall₂ e.bindings e.host).imp
      rintro b _ ⟨h, rfl⟩
      exact .stop b h
    · exact same
  | collect now =>
    rw [next_collect]
    split
    · apply (Collector.sweep_forall₂ e.bindings e.host).imp
      rintro b _ ⟨h, rfl⟩
      exact .collect b now h
    · exact same
  | scope call id mask tid =>
    rw [next_scope]
    split
    · apply (Collector.sweep_forall₂ e.bindings e.host).imp
      rintro b _ ⟨h, rfl⟩
      exact .scope b call id mask tid h
    · exact same
  | clear =>
    rw [next_clear]
    split
    · exact same
    · exact List.forall₂_map_right_iff.mpr (List.forall₂_same.mpr fun b _ => .clear b)
  | summarize => exact List.forall₂_map_right_iff.mpr (List.forall₂_same.mpr fun b _ => .summarize b)
  | postprocess => exact same
  | outside stimulus => exact same

/-- An act moves each binding, closes them all, or opens those that a tidy plan finds. -/
theorem next_cases (e : Engine) (a : Act) :
    let e' := e.next a
    (List.Forall₂ Binding.Moved e.bindings e'.bindings ∧
      e'.collector.plan = e.collector.plan) ∨
    (e'.bindings = [] ∧ e'.collector.plan = {}) ∨
    (e'.collector.plan.Tidy ∧ ∃ site specs, a = .init site ∧
      e'.collector.plan.discover site.files site.taskDir site.processName = .ok specs ∧
      List.Forall₂ e'.collector.plan.Opened specs e'.bindings) := by
  intro e'
  have same : List.Forall₂ Binding.Moved e.bindings e.bindings :=
    List.forall₂_same.mpr fun b _ => .stay b
  by_cases closes : a = .deinit
  · subst closes
    exact .inr (.inl ⟨rfl, rfl⟩)
  by_cases opens : ∃ site, a = .init site
  · obtain ⟨site, rfl⟩ := opens
    rcases e.init_cases site with ⟨_, next⟩ | ⟨_, ⟨plan, bindings, ready, next⟩ | ⟨_, _, next⟩⟩
    · have next : e' = _ := next
      rw [next]
      exact .inl ⟨same, rfl⟩
    · have next : e' = _ := next
      rw [next]
      obtain ⟨tidy, specs, found, opened⟩ := Collector.prepare_opened ready
      exact .inr (.inr ⟨tidy, site, specs, rfl, found, opened⟩)
    · have next : e' = _ := next
      rw [next]
      exact .inl ⟨same, rfl⟩
  · have opens := not_exists.mp opens
    exact .inl ⟨e.moved_next opens closes, (e.kept_next opens closes).plan⟩

/-- The bindings are those of a tidy plan one behind the other, and each counts the events of its
class. -/
structure Planned (e : Engine) : Prop where
  tidy : e.collector.plan.Tidy
  specs : ∃ threads process,
    e.bindings.map Binding.spec = e.collector.plan.bindingSpecs threads process
  names : ∀ b ∈ e.bindings, b.eventNames = (e.collector.plan.eventsFor b.device).map (·.name)

theorem planned_of_closed (none : e.bindings = []) (plan : e.collector.plan = {}) : e.Planned := by
  refine ⟨?_, ⟨[], "", ?_⟩, ?_⟩
  · rw [plan]
    exact ⟨tidyGroups_empty, ⟨List.forall_mem_nil _, List.nodup_nil⟩, tidyGroups_empty⟩
  · rw [none, plan]
    rfl
  · rw [none]
    exact List.forall_mem_nil _

theorem Planned.next (planned : e.Planned) (a : Act) : (e.next a).Planned := by
  rcases e.next_cases a with ⟨moved, plan⟩ | ⟨none, plan⟩ | ⟨tidy, site, specs, _, found, opened⟩
  · obtain ⟨tidy, ⟨threads, process, specs⟩, names⟩ := planned
    refine ⟨by rwa [plan], ⟨threads, process, ?_⟩, ?_⟩
    · rw [Binding.map_spec_of_moved moved, plan, specs]
    · intro b' member
      obtain ⟨b, old, moved⟩ := Collector.exists_of_mem_right moved member
      rw [plan, moved.sameMake.eventNames, moved.sameMake.device]
      exact names b old
  · exact planned_of_closed none plan
  · obtain ⟨threads, rfl⟩ := Plan.exists_threads found
    refine ⟨tidy, ⟨threads, site.processName, Plan.map_spec_of_opened opened⟩, ?_⟩
    · intro b member
      obtain ⟨spec, _, h, rfl⟩ := Plan.exists_opened opened member
      rfl

theorem Planned.run (planned : e.Planned) (acts : List Act) : (e.run acts).Planned := by
  induction acts generalizing e with
  | nil => exact planned
  | cons a acts ih => exact ih (planned.next a)

theorem planned_fresh (name : String) (config : Json) (perApi : Bool) (h : Host) :
    (fresh name config perApi h).Planned :=
  planned_of_closed rfl rfl

theorem Planned.exists_listed (planned : e.Planned) {b : Binding} (member : b ∈ e.bindings) :
    ∃ threads process, b.spec ∈ e.collector.plan.bindingSpecs threads process := by
  obtain ⟨threads, process, specs⟩ := planned.specs
  refine ⟨threads, process, ?_⟩
  rw [← specs]
  exact List.mem_map_of_mem member

/-- The role of a binding goes with its class, and background bindings are there only if they are
counted. -/
theorem Planned.role (planned : e.Planned) {b : Binding} (member : b ∈ e.bindings) :
    (b.device.isThreadBound = true ∧ (∃ tid, b.boundTid = some tid) ∧
      (b.role = .replay ∨ b.role = .background ∧ e.collector.plan.allThread = true)) ∨
    (b.device.isThreadBound = false ∧ b.boundTid = none ∧
      (b.role = .cspmu ∨ b.role = .interconnect)) := by
  obtain ⟨threads, process, listed⟩ := planned.exists_listed member
  rcases Plan.role_of_mem_bindingSpecs listed with ⟨bound, role⟩ | ⟨whole, role⟩
  · obtain ⟨tid, named⟩ := Plan.exists_tid_of_isThreadBound listed bound
    have follows : b.boundTid = some tid := (if_pos bound).trans named
    exact .inl ⟨bound, ⟨tid, follows⟩, role⟩
  · have whole : b.device.isThreadBound = false := whole
    have follows : b.boundTid = none := if_neg (by rw [whole]; nofun)
    exact .inr ⟨whole, follows, role.imp And.left And.left⟩

/-- The bindings of coherent subsystem units have their role. -/
theorem Planned.role_of_unit (planned : e.Planned) {b : Binding} (member : b ∈ e.bindings)
    {device : String} (unit : b.device = .cspmu device) : b.role = .cspmu := by
  obtain ⟨threads, process, listed⟩ := planned.exists_listed member
  have unit : b.spec.device = .cspmu device := unit
  rcases Plan.role_of_mem_bindingSpecs listed with ⟨bound, _⟩ | ⟨_, ⟨role, _⟩ | ⟨_, other⟩⟩
  · rw [unit] at bound
    cases bound
  · exact role
  · cases unit.symm.trans other

/-- No other bindings have their role. -/
theorem Planned.unit_of_role (planned : e.Planned) {b : Binding} (member : b ∈ e.bindings)
    (role : b.role = .cspmu) : ∃ device, b.device = .cspmu device := by
  obtain ⟨threads, process, listed⟩ := planned.exists_listed member
  have role : b.spec.role = .cspmu := role
  rcases Plan.role_of_mem_bindingSpecs listed with
    ⟨_, replay | ⟨background, _⟩⟩ | ⟨_, ⟨_, unit⟩ | ⟨interconnect, _⟩⟩
  · cases role.symm.trans replay
  · cases role.symm.trans background
  · exact unit
  · cases role.symm.trans interconnect

/-- Every binding counts something. -/
theorem Planned.eventNames_ne_nil (planned : e.Planned) {b : Binding} (member : b ∈ e.bindings) :
    b.eventNames ≠ [] := by
  obtain ⟨threads, process, listed⟩ := planned.exists_listed member
  rw [planned.names b member, ne_eq, List.map_eq_nil_iff]
  exact (planned.tidy.opens listed).1

/-- No event of a binding has a name that result entries use. -/
theorem Planned.unreserved (planned : e.Planned) {b : Binding} (member : b ∈ e.bindings)
    {name : String} (named : name ∈ b.eventNames) : name ∉ [sumKey, threadKey, deviceKey] := by
  rw [planned.names b member] at named
  obtain ⟨event, listed, rfl⟩ := List.mem_map.mp named
  exact planned.tidy.unreserved_eventsFor b.device event listed

/-! ## Properties of single bindings -/

/-- A property of single bindings that opening establishes and no move ends. -/
structure Lasting (P : Binding → Prop) : Prop where
  opened : ∀ {p : Plan} {spec : BindingSpec} {b : Binding}, p.Opened spec b → P b
  moved : ∀ {b b' : Binding}, b.Moved b' → P b → P b'

/-- Such a property holds of every binding at all times. -/
theorem Lasting.forall_run {P : Binding → Prop} (lasting : Lasting P)
    (holds : ∀ b ∈ e.bindings, P b) (acts : List Act) : ∀ b ∈ (e.run acts).bindings, P b := by
  induction acts generalizing e with
  | nil => exact holds
  | cons a acts ih =>
    refine ih ?_
    intro b' member
    rcases e.next_cases a with ⟨moved, _⟩ | ⟨none, _⟩ | ⟨_, _, _, _, _, opened⟩
    · obtain ⟨b, old, moved⟩ := Collector.exists_of_mem_right moved member
      exact lasting.moved moved (holds b old)
    · rw [none] at member
      cases member
    · obtain ⟨_, _, just⟩ := Plan.exists_opened opened member
      exact lasting.opened just

/-! ## A place with threads -/

/-- A thread of the workload, one of the background, and the interconnect. -/
def sampleTask : Site :=
  { sampleSite with
    files := .dir [("task", .dir [("101", .dir [("comm", .file (some "patrace-1\n"))]),
      ("102", .dir [("comm", .file (some "mali-cmar\n"))])])]
    taskDir := "/task" }

def sampleThreads : Json :=
  .arr [.null, .null, .arr [
    .arr [.str "misses", .int 3, .int 4, .null, .null, .null, .null, .null, .null, .null, .null],
    sampleEntry "flits" 3]]

end Engine

end ScopeMeter

import Mathlib
import ScopeMeter.Proofs.Collector.Document
import ScopeMeter.Proofs.Collector.Lifecycle
import ScopeMeter.Proofs.Plan.Prefixes

/-!
# Series of coherent subsystem units

A collector that counts for a coherent subsystem unit counts for nothing else but such units, one
binding for each (`Engine.Planned.devices_eq`), and the entry of the workload adds up the series of
all of them by name.  `Engine.units_apart` tells when an event series of that entry is the one of a
single unit: unless the entries of the configuration collide.
-/

namespace ScopeMeter

open Report
open Accumulator (scopeNames)

/-! ## Plans of runs -/

/-- What is prepared has the plan of the configuration. -/
theorem Collector.plan_prepare {c : Collector} {site : Site} {h : Host} {p : Plan}
    {bs : List Binding} (ok : (c.prepare site h).1 = .ok (p, bs)) :
    ∃ config, Config.load c.config = .ok config ∧
      p = (config.plan site.registry c.perApi none).1 := by
  unfold prepare at ok
  split at ok
  · cases ok
  next config loaded =>
    dsimp only at ok
    split at ok
    · cases ok
    · split at ok
      · cases ok
        exact ⟨config, loaded, rfl⟩
      · cases ok

namespace Engine

variable {e : Engine}

/-- Unless there are no bindings, the plan is the one of the configuration. -/
def Follows (e : Engine) : Prop :=
  e.bindings = [] ∨ ∃ c registry, Config.load e.collector.config = .ok c ∧
    e.collector.plan = (c.plan registry e.collector.perApi none).1

theorem Follows.next (follows : e.Follows) (a : Act) : (e.next a).Follows := by
  rcases e.next_cases a with ⟨moved, plan⟩ | ⟨none, _⟩ | ⟨_, site, _, rfl, _⟩
  · rcases follows with none | ⟨c, registry, loaded, planned⟩
    · rw [none, List.forall₂_nil_left_iff] at moved
      exact .inl moved
    · have settings := e.settings_next a
      simp only [Engine.settings, Prod.mk.injEq] at settings
      refine .inr ⟨c, registry, ?_, ?_⟩
      · rw [settings.2.1, loaded]
      · rw [plan, settings.2.2, planned]
  · exact .inl none
  · rcases e.init_cases site with ⟨_, next⟩ | ⟨_, ⟨plan, bindings, ready, next⟩ | ⟨_, _, next⟩⟩
    · rw [next]
      exact follows
    · obtain ⟨c, loaded, planned⟩ := Collector.plan_prepare ready
      rw [next]
      exact .inr ⟨c, site.registry, loaded, planned⟩
    · rw [next]
      exact follows

theorem Follows.run (follows : e.Follows) (acts : List Act) : (e.run acts).Follows := by
  induction acts generalizing e with
  | nil => exact follows
  | cons a acts ih => exact ih (follows.next a)

/-! ## Bindings of units -/

/-- With a binding of one unit, the bindings are those of the units of the plan, one for each. -/
theorem Planned.devices_eq (planned : e.Planned) {b : Binding} (member : b ∈ e.bindings)
    {device : String} (unit : b.device = .cspmu device) :
    e.bindings.map (·.device) = e.collector.plan.cspmuEvents.keys.map .cspmu := by
  obtain ⟨threads, process, specs⟩ := planned.specs
  have listed : b.spec ∈ e.collector.plan.bindingSpecs threads process := by
    rw [← specs]
    exact List.mem_map_of_mem member
  have filled : e.collector.plan.cspmuEvents.isEmpty = false := by
    have unit : b.spec.device = .cspmu device := unit
    rcases Plan.bindingSpecs_cases listed with ⟨_, _, _, _, _, key, _, is⟩ | ⟨filled, _⟩ |
      ⟨_, _, is⟩
    · have bound := Plan.isThreadBound_ofKey key
      rw [is] at unit
      rw [show DeviceClass.ofKey key = .cspmu device from unit] at bound
      cases bound
    · exact filled
    · rw [is] at unit
      cases unit
  have units : e.bindings.map Binding.spec = e.collector.plan.cspmuSpecs process := by
    rw [specs, Plan.bindingSpecs, filled]
    rfl
  have devices := congrArg (List.map BindingSpec.device) units
  rw [Plan.cspmuSpecs, List.map_map, List.map_map] at devices
  exact devices

theorem Planned.exists_unit (planned : e.Planned) {b : Binding} (member : b ∈ e.bindings)
    {device : String} (unit : b.device = .cspmu device) {b' : Binding}
    (member' : b' ∈ e.bindings) : ∃ device', b'.device = .cspmu device' := by
  have listed : b'.device ∈ e.bindings.map (·.device) := List.mem_map_of_mem member'
  rw [planned.devices_eq member unit] at listed
  obtain ⟨device', _, is⟩ := List.mem_map.mp listed
  exact ⟨device', is.symm⟩

theorem Planned.nodup_devices (planned : e.Planned) {b : Binding} (member : b ∈ e.bindings)
    {device : String} (unit : b.device = .cspmu device) : (e.bindings.map (·.device)).Nodup := by
  rw [planned.devices_eq member unit]
  exact e.collector.plan.cspmuEvents.nodup_keys.map fun _ _ same => DeviceClass.cspmu.inj same

/-- A unit with an event has a binding. -/
theorem Planned.exists_binding (planned : e.Planned) {b : Binding} (member : b ∈ e.bindings)
    {device : String} (unit : b.device = .cspmu device) {device' : String} {event : Event}
    (listed : event ∈ e.collector.plan.eventsFor (.cspmu device')) :
    ∃ b' ∈ e.bindings, b'.device = .cspmu device' ∧ event.name ∈ b'.eventNames := by
  have key : device' ∈ e.collector.plan.cspmuEvents.keys := by
    rw [Keyed.mem_keys_iff]
    cases found : e.collector.plan.cspmuEvents.get? device' with
    | some group => rfl
    | none =>
      rw [Plan.eventsFor, found] at listed
      cases listed
  have there : DeviceClass.cspmu device' ∈ e.bindings.map (·.device) := by
    rw [planned.devices_eq member unit]
    exact List.mem_map_of_mem key
  obtain ⟨b', member', is⟩ := List.mem_map.mp there
  refine ⟨b', member', is, ?_⟩
  rw [planned.names b' member', is]
  exact List.mem_map_of_mem listed

/-- The entry of the workload adds up the series of all units. -/
theorem Planned.foreground_eq (planned : e.Planned) {b : Binding} (member : b ∈ e.bindings)
    {device : String} (unit : b.device = .cspmu device) : foreground e.bindings = e.bindings := by
  have role : ∀ b' ∈ e.bindings, b'.role = .cspmu := by
    intro b' member'
    obtain ⟨_, unit'⟩ := planned.exists_unit member unit member'
    exact planned.role_of_unit member' unit'
  have none : ∀ role', role' ≠ .cspmu → ofRole e.bindings role' = [] := by
    intro role' other
    apply List.filter_eq_nil_iff.mpr
    intro b' member' is
    exact other ((of_decide_eq_true is).symm.trans (role b' member'))
  have all : ofRole e.bindings .cspmu = e.bindings :=
    List.filter_eq_self.mpr fun b' member' => decide_eq_true (role b' member')
  rw [foreground, none .replay (by decide), none .interconnect (by decide), all, List.nil_append,
    List.append_nil]

end Engine

/-! ## Columns -/

/-- A column that one binding alone has is that of the binding. -/
theorem Report.columnOf_eq {bs : List Binding} {b : Binding} (member : b ∈ bs) {name : String}
    (alone : ∀ b' ∈ bs.erase b, b'.column name = none) : columnOf bs name = b.column name := by
  have others : sumColumns ((bs.erase b).map (·.column name)) = none := by
    apply sumColumns_column_eq_none
    intro b' member' listed
    rw [← isSome_column, alone b' member'] at listed
    cases listed
  rw [columnOf, sumColumns_perm ((List.perm_cons_erase member).map _), List.map_cons,
    sumColumns_cons, others, Option.merge_none_right]

/-- The series of calls have no underscore in their names. -/
theorem cspmuName_ne_calls (device name : String) :
    Entry.cspmuName device name ∉ [scopeCallsName, scopeOwnCallsName] := by
  have underscore : '_' ∈ (Entry.cspmuName device name).toList := by
    rw [toList_cspmuName]
    exact List.mem_append_right _ List.mem_cons_self
  intro calls
  simp only [List.mem_cons, List.not_mem_nil, or_false] at calls
  rcases calls with is | is <;> rw [is] at underscore <;> revert underscore <;> decide

namespace Engine

variable {e : Engine} {c : Config} {registry : Registry} {perApi : Bool}

/-- Unless entries collide, no other binding has the series of an event of a unit. -/
theorem Planned.column_eq_none (planned : e.Planned) (filed : ∀ b ∈ e.bindings, b.Filed)
    (plan : e.collector.plan = (c.plan registry perApi none).1)
    (events : ¬c.Collides registry perApi none "")
    (sums : ¬c.Collides registry perApi none ":ScopeSum") {b b' : Binding}
    (member : b ∈ e.bindings) (member' : b' ∈ e.bindings) {device device' : String}
    (unit : b.device = .cspmu device) (unit' : b'.device = .cspmu device')
    (apart : device ≠ device') {name : String} (named : name ∈ b.eventNames) :
    b'.column name = none := by
  rw [planned.names b member, unit, plan] at named
  obtain ⟨event, listed, is⟩ := List.mem_map.mp named
  -- Another series of that name would be one of an event, of its sums, or of calls.
  rw [← Option.not_isSome_iff_eq_none, isSome_column, Keyed.mem_keys_iff]
  intro present
  have known := (filed b' member').known name present
  have events' : b'.eventNames = _ := planned.names b' member'
  rw [unit', plan] at events'
  rcases List.mem_append.mp known with own | scope
  · rw [events'] at own
    obtain ⟨event', listed', is'⟩ := List.mem_map.mp own
    refine events (Config.collides_iff.mp
      ⟨device, device', apart, event, listed, event', listed', ?_⟩)
    rw [is, is', String.append_empty]
  · rcases List.mem_append.mp scope with sum | calls
    · obtain ⟨own, own_mem, is'⟩ := List.mem_map.mp sum
      rw [events'] at own_mem
      obtain ⟨event', listed', named'⟩ := List.mem_map.mp own_mem
      refine sums (Config.collides_iff.mp
        ⟨device, device', apart, event, listed, event', listed', ?_⟩)
      rw [is, named', ← is']
      rfl
    · obtain ⟨_, own, _, composed⟩ := Config.mem_names_cspmu_iff.mp named
      rw [composed] at calls
      exact cspmuName_ne_calls device own calls

/-- The document of units: their entries, the entry of the workload, and what is shown of the
background. -/
theorem Planned.field?_units (planned : e.Planned) {b : Binding} (member : b ∈ e.bindings)
    {device : String} (unit : b.device = .cspmu device) :
    (e.next .postprocess).collector.result.field? "thread_data" = some (.arr
      ((e.bindings.flatMap bindingEntries ++ [aggregateEntry Aggregate.replay.entry e.bindings] ++
        if e.collector.plan.allThread then backgroundEntries e.bindings else []).map
          Json.ofKeyed)) := by
  refine (field?_document ..).trans ?_
  have listed : entries e.collector.plan.allThread e.bindings = foregroundEntries e.bindings ++
      if e.collector.plan.allThread then backgroundEntries e.bindings else [] := rfl
  have front : foregroundEntries e.bindings = e.bindings.flatMap bindingEntries ++
      [aggregateEntry Aggregate.replay.entry e.bindings] := by
    rw [foregroundEntries, planned.foreground_eq member unit]
  rw [← front, ← listed]
  rfl

/-- No event has a name that the entry of the workload uses otherwise. -/
theorem Planned.get?_workload (planned : e.Planned) (filed : ∀ b ∈ e.bindings, b.Filed)
    {b : Binding} (member : b ∈ e.bindings) {x : String} (event : x ∈ b.eventNames) :
    (aggregateEntry Aggregate.replay.entry e.bindings).get? x =
      (columnOf e.bindings x).map Json.ofSeries := by
  have shown := shows_aggregateEntry (planned.freelyNamed filed) .replay
  have free := planned.unreserved member event
  rw [List.mem_cons, not_or] at free
  rw [shown.field x free.1, get?_labels free.2, Option.or_none]

/-- If events of two units collide, their bindings have series of one name. -/
theorem Planned.exists_shared (planned : e.Planned) {b : Binding} (member : b ∈ e.bindings)
    {device : String} (unit : b.device = .cspmu device)
    (plan : e.collector.plan = (c.plan registry perApi none).1)
    (collides : c.Collides registry perApi none "") :
    ∃ b₁ b₂ others x, e.bindings.Perm (b₁ :: b₂ :: others) ∧ b₁.device ≠ b₂.device ∧
      x ∈ b₁.eventNames ∧ x ∈ b₂.eventNames := by
  obtain ⟨d₁, d₂, apart, event, listed, event', listed', same⟩ := Config.collides_iff.mpr collides
  rw [String.append_empty] at same
  rw [← plan] at listed listed'
  obtain ⟨b₁, member₁, unit₁, named₁⟩ := planned.exists_binding member unit listed
  obtain ⟨b₂, member₂, unit₂, named₂⟩ := planned.exists_binding member unit listed'
  have other : b₁.device ≠ b₂.device := by
    rw [unit₁, unit₂]
    exact fun is => apart (DeviceClass.cspmu.inj is)
  have behind : b₂ ∈ e.bindings.erase b₁ := by
    refine (List.mem_erase_of_ne ?_).mpr member₂
    rintro rfl
    exact other rfl
  have split : e.bindings.Perm (b₁ :: b₂ :: (e.bindings.erase b₁).erase b₂) :=
    (List.perm_cons_erase member₁).trans ((List.perm_cons_erase behind).cons b₁)
  exact ⟨b₁, b₂, _, event.name, split, other, named₁, by rwa [same]⟩

/-- Two events of different coherent subsystem units of a plan have one name exactly if the entries
collide.  After every run with a binding of such a unit, all bindings are of different units, the
plan is that of the configuration, and the entry of the workload shows for each name the sum over
the bindings.  If entries collide neither by the names of their events nor by those of sums of
scopes, the series of an event there is the one of the unit of the event, and no other unit has a
series of that name; and if events collide, the entry adds up the series of two units. -/
theorem units_apart (name : String) (config : Json) (perApi : Bool) (h : Host) (acts : List Act) :
    (∀ (c : Config) (registry : Registry) (perApi : Bool) (pmuBits : Option Nat),
      (∃ device device', device ≠ device' ∧
        ∃ event ∈ (c.plan registry perApi pmuBits).1.eventsFor (.cspmu device),
        ∃ event' ∈ (c.plan registry perApi pmuBits).1.eventsFor (.cspmu device'),
          event.name = event'.name) ↔ c.Collides registry perApi pmuBits "") ∧
    let e := (fresh name config perApi h).run acts
    ∀ b ∈ e.bindings, ∀ device, b.device = .cspmu device →
      (∀ b' ∈ e.bindings, ∃ device', b'.device = .cspmu device') ∧
      (e.bindings.map (·.device)).Nodup ∧
      ∃ c registry, Config.load config = .ok c ∧
        e.collector.plan = (c.plan registry perApi none).1 ∧
        ∃ before total after, (e.next .postprocess).collector.result.field? "thread_data" =
            some (.arr ((before ++ [total] ++ after).map Json.ofKeyed)) ∧
          Shows total (labels "replayMainThreads" none) (columnOf e.bindings) ∧
          (¬c.Collides registry perApi none "" → ¬c.Collides registry perApi none ":ScopeSum" →
            ∀ x ∈ b.eventNames, total.get? x = (b.column x).map Json.ofSeries ∧
              ∀ b' ∈ e.bindings, b'.device ≠ b.device → b'.column x = none) ∧
          (c.Collides registry perApi none "" →
            ∃ b₁ b₂ others x, e.bindings.Perm (b₁ :: b₂ :: others) ∧ b₁.device ≠ b₂.device ∧
              x ∈ b₁.eventNames ∧ x ∈ b₂.eventNames ∧ total.get? x =
                (sumColumns (b₁.column x :: b₂.column x :: others.map (·.column x))).map
                  Json.ofSeries) := by
  refine ⟨?_, ?_⟩
  · intro c registry perApi pmuBits
    rw [← Config.collides_iff]
    simp only [String.append_empty]
  intro e b member device unit
  have planned : e.Planned := (planned_fresh name config perApi h).run acts
  have filed : ∀ b ∈ e.bindings, b.Filed := lasting_filed.forall_run (List.forall_mem_nil _) acts
  have distinct := planned.nodup_devices member unit
  have settings : e.settings = (name, config, perApi) := settings_run _ acts
  simp only [Engine.settings, Prod.mk.injEq] at settings
  have follows : e.Follows := Follows.run (.inl rfl) acts
  refine ⟨fun b' member' => planned.exists_unit member unit member', distinct, ?_⟩
  rcases follows with none | ⟨c, registry, loaded, plan⟩
  · rw [none] at member
    cases member
  rw [settings.2.1] at loaded
  rw [settings.2.2] at plan
  refine ⟨c, registry, loaded, plan, _, _, _, planned.field?_units member unit,
    shows_aggregateEntry (planned.freelyNamed filed) .replay, ?_, ?_⟩
  · intro events sums x event
    have others : ∀ b' ∈ e.bindings, b'.device ≠ b.device → b'.column x = none := by
      intro b' member' other
      obtain ⟨device', unit'⟩ := planned.exists_unit member unit member'
      refine planned.column_eq_none filed plan events sums member member' unit unit' ?_ event
      rintro rfl
      exact other (unit'.trans unit.symm)
    refine ⟨?_, others⟩
    rw [planned.get?_workload filed member event, columnOf_eq member]
    intro b' erased
    apply others b' (List.mem_of_mem_erase erased)
    have split := (List.perm_cons_erase member).map (·.device)
    rw [split.nodup_iff, List.map_cons, List.nodup_cons] at distinct
    intro same
    exact distinct.1 (same ▸ List.mem_map_of_mem erased)
  · intro collides
    obtain ⟨b₁, b₂, others, x, split, other, named₁, named₂⟩ :=
      planned.exists_shared member unit plan collides
    have member₁ : b₁ ∈ e.bindings := split.mem_iff.mpr List.mem_cons_self
    refine ⟨b₁, b₂, others, x, split, other, named₁, named₂, ?_⟩
    rw [planned.get?_workload filed member₁ named₁, columnOf, sumColumns_perm (split.map _)]
    rfl

/-- The event of one unit begins as the name of the other unit goes on. -/
def sampleTwoUnits : Json :=
  .arr [.null, .null, .arr [sampleUnit "a" "b_c" 3, sampleUnit "a_b" "c" 3]]

def sampleTwoUnitsSite : Site :=
  { sampleSite with
    files := .dir [("a", .dir [("type", .file (some "8\n"))]),
      ("a_b", .dir [("type", .file (some "9\n"))])] }

/-- One round in which the units count 5 and 7. -/
def sampleTwoUnitsActs : List Act :=
  [.init sampleTwoUnitsSite, .start, .outside (.tick (-1) (some 8) [5]),
    .outside (.tick (-1) (some 9) [7]), .collect 1]

theorem units_apart_sampleTwoUnits :
    let e := (fresh "perf" sampleTwoUnits false {}).run sampleTwoUnitsActs
    ∃ b ∈ e.bindings, b.device = .cspmu "a" ∧
      ∃ c registry, Config.load sampleTwoUnits = .ok c ∧ c.Collides registry false none "" ∧
        ∃ b₁ ∈ e.bindings, ∃ b₂ ∈ e.bindings, b₁.device ≠ b₂.device ∧
          ∃ x ∈ b₁.eventNames, x ∈ b₂.eventNames := by
  intro e
  have reached : (e.bindings[0]?.map (·.device), ["a", "a_b"].map fun device =>
      (e.collector.plan.eventsFor (.cspmu device)).map (·.name)) =
        (some (.cspmu "a"), [["a_b_c"], ["a_b_c"]]) := by
    simp only [e]
    cbv
  obtain ⟨first, names⟩ := Prod.mk.inj reached
  obtain ⟨b, at_zero, unit⟩ := Option.map_eq_some_iff.mp first
  have member : b ∈ e.bindings := List.mem_of_getElem? at_zero
  obtain ⟨shared_iff, runs⟩ := units_apart "perf" sampleTwoUnits false {} sampleTwoUnitsActs
  obtain ⟨_, _, c, registry, loaded, plan, _, _, _, _, _, _, adds⟩ := runs b member "a" unit
  rw [List.map_cons, List.map_singleton, List.cons.injEq, List.cons.injEq] at names
  have there : ∀ device, (e.collector.plan.eventsFor (.cspmu device)).map (·.name) = ["a_b_c"] →
      ∃ event ∈ (c.plan registry false none).1.eventsFor (.cspmu device), event.name = "a_b_c" := by
    intro device is
    have listed : "a_b_c" ∈ (e.collector.plan.eventsFor (.cspmu device)).map (·.name) := by
      rw [is]
      exact List.mem_singleton_self _
    rw [show e.collector.plan = _ from plan] at listed
    exact List.mem_map.mp listed
  obtain ⟨event, listed, is⟩ := there "a" names.1
  obtain ⟨event', listed', is'⟩ := there "a_b" names.2.1
  have collides := (shared_iff c registry false none).mp
    ⟨"a", "a_b", by decide, event, listed, event', listed', is.trans is'.symm⟩
  obtain ⟨b₁, b₂, _, x, split, other, named₁, named₂, _⟩ := adds collides
  exact ⟨b, member, unit, c, registry, loaded, collides, b₁, split.mem_iff.mpr List.mem_cons_self,
    b₂, split.mem_iff.mpr (List.mem_cons_of_mem _ List.mem_cons_self), other, x, named₁, named₂⟩

/-- Both units have an event of one name, and the entry of the workload has the sum of both. -/
theorem shared_series_sampleTwoUnits :
    let e := (fresh "perf" sampleTwoUnits false {}).run sampleTwoUnitsActs
    e.bindings.map (fun b => (b.device, b.eventNames, b.column "a_b_c")) =
        [(.cspmu "a", ["a_b_c"], some [5]), (.cspmu "a_b", ["a_b_c"], some [7])] ∧
      (aggregateEntry Aggregate.replay.entry (foreground e.bindings)).get? "a_b_c" =
        some (.ofSeries [12]) := by
  constructor <;> cbv

end Engine

end ScopeMeter

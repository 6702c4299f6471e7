import Mathlib
import ScopeMeter.Proofs.Plan.Groups

/-!
# Well-formed plans

In every plan the groups of devices and of coherent subsystem units hold an event, no event has a
reserved name, and the names of a group are different.  The default group alone can break this: a
device whose name is the key of the default group puts its events there, and the cycle counter
comes behind them when it is placed without a look at their names.  `wellFormed_plan_iff` says
exactly when that happens.
-/

namespace ScopeMeter

/-- No event of a group has a name that result entries use. -/
def Unreserved (group : List Event) : Prop :=
  ∀ event ∈ group, event.name ∉ ["SUM", "CCthread", "device"]

/-- The cycle counter leads a group, and no other event of the group has its name. -/
def LedByCycles (inherited : Bool) (group : List Event) : Prop :=
  ∃ width rest, group = cycleLeader width inherited :: rest ∧
    ∀ event ∈ rest, event.name ≠ cycleLeaderName

/-- Every group holds an event, none has a reserved name, and under the keys in question the names
of a group are different. -/
def TidyGroups (apart : String → Prop) (groups : Keyed (List Event)) : Prop :=
  ∀ key group, groups.get? key = some group →
    group ≠ [] ∧ Unreserved group ∧ (apart key → DistinctNames group)

variable {apart : String → Prop} {groups : Keyed (List Event)} {group : List Event} {event : Event}

theorem Unreserved.addUnique (unreserved : Unreserved group)
    (named : event.name ∉ ["SUM", "CCthread", "device"]) : Unreserved (addUnique group event) := by
  intro e member
  rcases mem_addUnique member with old | rfl
  · exact unreserved e old
  · exact named

theorem tidyGroups_empty : TidyGroups apart .empty := by
  intro key group found
  cases found

/-- Putting an event behind a group keeps the groups tidy. -/
theorem TidyGroups.update (tidy : TidyGroups apart groups) (key : String)
    (named : event.name ∉ ["SUM", "CCthread", "device"]) :
    TidyGroups apart (groups.update key [] (addUnique · event)) := by
  intro k group found
  rw [Keyed.get?_update] at found
  split at found
  next same =>
    subst same
    cases found
    refine ⟨addUnique_ne_nil _ _, ?_, ?_⟩
    · apply Unreserved.addUnique _ named
      cases before : groups.get? key with
      | none => exact List.forall_mem_nil _
      | some old => exact (tidy key old before).2.1
    · intro distinct
      apply DistinctNames.addUnique
      cases before : groups.get? key with
      | none => exact List.nodup_nil
      | some old => exact (tidy key old before).2.2 distinct
  next => exact tidy k group found

namespace Plan

/-- What holds of the groups of every plan. -/
structure Tidy (p : Plan) : Prop where
  device : TidyGroups (· ≠ defaultDevice) p.deviceEvents
  interconnect : Unreserved p.interconnectEvents ∧ DistinctNames p.interconnectEvents
  cspmu : TidyGroups (fun _ => True) p.cspmuEvents

end Plan

/-! ## Names of requests -/

/-- A name with an underscore is not reserved. -/
theorem unreserved_of_underscore {front back : String} :
    front ++ "_" ++ back ∉ ["SUM", "CCthread", "device"] := by
  intro reserved
  have underscore : '_' ∈ (front ++ "_" ++ back).toList := by simp
  simp only [List.mem_cons, List.not_mem_nil, or_false] at reserved
  rcases reserved with eq | eq | eq <;> rw [eq] at underscore <;> revert underscore <;> decide

theorem unreserved_cycleLeader : cycleLeaderName ∉ ["SUM", "CCthread", "device"] := by decide

/-- What entries that count ask for has no reserved name. -/
theorem Config.unreserved_requests (c : Config) (registry : Registry) (perApi : Bool)
    (pmuBits : Option Nat) :
    ∀ r ∈ c.requests registry perApi pmuBits, r.2.name ∉ ["SUM", "CCthread", "device"] := by
  intro r member
  obtain ⟨e, counted, asked⟩ := List.mem_flatMap.mp member
  have accepted : e.isAccepted (c.context registry perApi pmuBits) :=
    (List.mem_filter.mp counted).2
  have named : e.name ∉ ["SUM", "CCthread", "device"] := (Entry.isAccepted_iff.mp accepted).1
  rcases Entry.name_requests asked with same | ⟨front, back, longer⟩
  · rwa [same]
  · rw [longer]
    exact unreserved_of_underscore

/-! ## What every request keeps -/

namespace Draft

variable {d : Draft}

/-- The leader keeps the groups tidy, apart from the names of its own group. -/
theorem tidyGroups_withLeader (tidy : TidyGroups (· ≠ defaultDevice) d.plan.deviceEvents)
    (width : Width) : TidyGroups (· ≠ defaultDevice) (d.withLeader width) := by
  intro key group found
  rw [get?_withLeader] at found
  split at found
  next isDefault =>
    cases found
    refine ⟨List.append_ne_nil_of_right_ne_nil _ (List.cons_ne_nil _ _), ?_,
      fun apart => absurd isDefault.2 apart⟩
    intro event member
    rw [List.mem_append, List.mem_singleton] at member
    rcases member with old | rfl
    · cases before : d.plan.deviceEvents.get? key with
      | none =>
        rw [before] at old
        cases old
      | some group =>
        rw [before] at old
        exact (tidy key group before).2.1 event old
    · exact unreserved_cycleLeader
  next => exact tidy key group found

theorem tidy_serve (tidy : d.plan.Tidy) {r : Target × Event}
    (named : r.2.name ∉ ["SUM", "CCthread", "device"]) : (d.serve r).plan.Tidy := by
  obtain ⟨target, event⟩ := r
  obtain ⟨device, interconnect, cspmu⟩ := tidy
  cases target with
  | thread key =>
    cases key with
    | none => exact ⟨(tidyGroups_withLeader device event.width).update _ named, interconnect, cspmu⟩
    | some key => exact ⟨device.update key named, interconnect, cspmu⟩
  | interconnect =>
    exact ⟨device, ⟨interconnect.1.addUnique named, interconnect.2.addUnique event⟩, cspmu⟩
  | cspmu key => exact ⟨device, interconnect, cspmu.update key named⟩

theorem tidy_foldl_serve (tidy : d.plan.Tidy) {rs : List (Target × Event)}
    (named : ∀ r ∈ rs, r.2.name ∉ ["SUM", "CCthread", "device"]) :
    (rs.foldl serve d).plan.Tidy := by
  induction rs generalizing d with
  | nil => exact tidy
  | cons r rs ih =>
    rw [List.forall_mem_cons] at named
    exact ih (tidy_serve tidy named.1) named.2

end Draft

/-! ## The default group -/

/-- Whether a request is for the default group. -/
def isForDefault : Target × Event → Bool
  | (.thread device, _) => device.getD defaultDevice = defaultDevice
  | _ => false

/-- How the default group comes to be. -/
inductive DefaultGroup (d : Draft) : List (Target × Event) → Prop
  | absent : d.leaderPlaced = false → d.plan.deviceEvents.get? defaultDevice = none →
    DefaultGroup d []
  | led (width : Width) {event : Event} {rest : List Event} {later : List (Target × Event)} :
    d.leaderPlaced = true →
    d.plan.deviceEvents.get? defaultDevice = some (cycleLeader width d.plan.inherited :: rest) →
    DistinctNames (cycleLeader width d.plan.inherited :: rest) →
    DefaultGroup d ((.thread none, event) :: later)
  | intruded {event : Event} {rest : List Event} {later : List (Target × Event)} :
    d.leaderPlaced = false →
    d.plan.deviceEvents.get? defaultDevice = some (event :: rest) →
    DistinctNames (event :: rest) → (∀ r ∈ later, r.1 ≠ .thread none) →
    DefaultGroup d ((.thread (some defaultDevice), event) :: later)
  | preempted (width : Width) {event : Event} {rest : List Event}
    {later : List (Target × Event)} :
    d.leaderPlaced = true →
    d.plan.deviceEvents.get? defaultDevice = some (event :: rest) →
    cycleLeader width d.plan.inherited ∈ rest → (∃ r ∈ later, r.1 = .thread none) →
    DefaultGroup d ((.thread (some defaultDevice), event) :: later)

namespace DefaultGroup

variable {d : Draft} {claims : List (Target × Event)}

theorem serve_other (state : DefaultGroup d claims) {r : Target × Event}
    (other : isForDefault r = false) : DefaultGroup (d.serve r) claims := by
  obtain ⟨target, event⟩ := r
  have placed : (d.serve (target, event)).leaderPlaced = d.leaderPlaced := by
    cases target with
    | thread key =>
      cases key with
      | none => cases other
      | some key => rfl
    | interconnect => rfl
    | cspmu key => rfl
  have inherited : (d.serve (target, event)).plan.inherited = d.plan.inherited := by
    cases target with
    | thread key => cases key <;> rfl
    | interconnect => rfl
    | cspmu key => rfl
  have group : (d.serve (target, event)).plan.deviceEvents.get? defaultDevice =
      d.plan.deviceEvents.get? defaultDevice := by
    cases target with
    | thread key =>
      cases key with
      | none => cases other
      | some key =>
        have apart : key ≠ defaultDevice := by simpa [isForDefault] using other
        rw [Draft.plan_serve_device, Keyed.get?_update, if_neg apart]
    | interconnect => rfl
    | cspmu key => rfl
  cases state with
  | absent unplaced missing => exact .absent (placed.trans unplaced) (group.trans missing)
  | led width led found distinct =>
    rw [← inherited] at found distinct
    exact .led width (placed.trans led) (group.trans found) distinct
  | intruded unplaced found distinct only =>
    exact .intruded (placed.trans unplaced) (group.trans found) distinct only
  | preempted width led found member claimed =>
    rw [← inherited] at member
    exact .preempted width (placed.trans led) (group.trans found) member claimed

/-- An event of the device of that name comes behind what the default group holds. -/
theorem serve_device (state : DefaultGroup d claims) (event : Event) :
    DefaultGroup (d.serve (.thread (some defaultDevice), event))
      (claims ++ [(.thread (some defaultDevice), event)]) := by
  have group : (d.serve (.thread (some defaultDevice), event)).plan.deviceEvents.get?
      defaultDevice =
        some (addUnique ((d.plan.deviceEvents.get? defaultDevice).getD []) event) := by
    rw [Draft.plan_serve_device, Keyed.get?_update, if_pos rfl]
  cases state with
  | absent unplaced missing =>
    rw [missing] at group
    exact .intruded unplaced group (List.nodup_singleton _) (fun _ member => nomatch member)
  | @led width _ rest _ placed found distinct =>
    obtain ⟨others, grown, _⟩ := addUnique_cons (cycleLeader width d.plan.inherited) rest event
    have distinct := distinct.addUnique event
    rw [grown] at distinct
    rw [found, Option.getD_some, grown] at group
    exact .led width placed group distinct
  | @intruded first rest later unplaced found distinct only =>
    obtain ⟨others, grown, _⟩ := addUnique_cons first rest event
    have distinct := distinct.addUnique event
    rw [grown] at distinct
    rw [found, Option.getD_some, grown] at group
    refine .intruded unplaced group distinct ?_
    intro r member
    rcases List.mem_append.mp member with old | new
    · exact only r old
    · rw [List.mem_singleton.mp new]
      nofun
  | @preempted width first rest later placed found member claimed =>
    obtain ⟨others, grown, kept⟩ := addUnique_cons first rest event
    rw [found, Option.getD_some, grown] at group
    obtain ⟨r, old, claim⟩ := claimed
    exact .preempted width placed group (kept member) ⟨r, List.mem_append_left _ old, claim⟩

/-- Another event of the default group brings the leader along, unless it is there already. -/
theorem serve_default (state : DefaultGroup d claims) (event : Event) :
    DefaultGroup (d.serve (.thread none, event)) (claims ++ [(.thread none, event)]) := by
  have group : (d.serve (.thread none, event)).plan.deviceEvents.get? defaultDevice =
      some (addUnique (((d.withLeader event.width).get? defaultDevice).getD []) event) := by
    rw [Draft.plan_serve_default, Keyed.get?_update, if_pos rfl]
  rw [Draft.get?_withLeader] at group
  cases state with
  | absent unplaced missing =>
    obtain ⟨others, grown, _⟩ := addUnique_cons (cycleLeader event.width d.plan.inherited) [] event
    have distinct : DistinctNames [cycleLeader event.width d.plan.inherited] :=
      List.nodup_singleton _
    have distinct := distinct.addUnique event
    rw [grown] at distinct
    rw [if_pos ⟨unplaced, rfl⟩, missing, Option.getD_some, Option.getD_none, List.nil_append,
      grown] at group
    exact .led event.width rfl group distinct
  | @led width _ rest _ placed found distinct =>
    obtain ⟨others, grown, _⟩ := addUnique_cons (cycleLeader width d.plan.inherited) rest event
    have distinct := distinct.addUnique event
    rw [grown] at distinct
    rw [if_neg (by rw [placed]; nofun), found, Option.getD_some, grown] at group
    exact .led width rfl group distinct
  | @intruded first rest later unplaced found distinct only =>
    let leader := cycleLeader event.width d.plan.inherited
    obtain ⟨others, grown, kept⟩ := addUnique_cons first (rest ++ [leader]) event
    rw [if_pos ⟨unplaced, rfl⟩, found, Option.getD_some, Option.getD_some, List.cons_append,
      grown] at group
    have behind : leader ∈ others := kept (List.mem_append_right _ (List.mem_singleton_self _))
    exact .preempted event.width rfl group behind
      ⟨_, List.mem_append_right _ (List.mem_singleton_self _), rfl⟩
  | @preempted width first rest later placed found member claimed =>
    obtain ⟨others, grown, kept⟩ := addUnique_cons first rest event
    rw [if_neg (by rw [placed]; nofun), found, Option.getD_some, grown] at group
    obtain ⟨r, old, claim⟩ := claimed
    exact .preempted width rfl group (kept member) ⟨r, List.mem_append_left _ old, claim⟩

theorem foldl_serve (state : DefaultGroup d claims) (rs : List (Target × Event)) :
    DefaultGroup (rs.foldl Draft.serve d) (claims ++ rs.filter isForDefault) := by
  induction rs generalizing d claims with
  | nil => simpa using state
  | cons r rs ih =>
    rw [List.foldl_cons]
    by_cases isDefault : isForDefault r
    · rw [List.filter_cons_of_pos isDefault, ← List.singleton_append, ← List.append_assoc]
      apply ih
      obtain ⟨target, event⟩ := r
      cases target with
      | thread key =>
        cases key with
        | none => exact state.serve_default event
        | some key =>
          have same : key = defaultDevice := by simpa [isForDefault] using isDefault
          subst same
          exact state.serve_device event
      | interconnect => cases isDefault
      | cspmu key => cases isDefault
    · rw [List.filter_cons_of_neg isDefault]
      exact ih (state.serve_other (Bool.eq_false_iff.mpr isDefault))

/-- The default group is well-formed unless it is preempted. -/
theorem wellFormed_iff (state : DefaultGroup d claims) :
    (∀ group, d.plan.deviceEvents.get? defaultDevice = some group →
      LedByCycles d.plan.inherited group ∧ DistinctNames group) ↔
    ¬∃ event later, claims = (.thread (some defaultDevice), event) :: later ∧
      ((∀ width, event ≠ cycleLeader width d.plan.inherited) ∨
        ∃ r ∈ later, r.1 = .thread none) := by
  -- The names behind a leader differ from its own.
  have leads : ∀ {width rest}, DistinctNames (cycleLeader width d.plan.inherited :: rest) →
      LedByCycles d.plan.inherited (cycleLeader width d.plan.inherited :: rest) := by
    intro width rest distinct
    refine ⟨width, rest, rfl, ?_⟩
    intro event member named
    have absent : cycleLeaderName ∉ rest.map (·.name) := (List.nodup_cons.mp distinct).1
    rw [← named] at absent
    exact absent (List.mem_map_of_mem member)
  cases state with
  | absent _ missing =>
    refine iff_of_true ?_ ?_
    · intro group found
      cases missing.symm.trans found
    · rintro ⟨_, _, none, _⟩
      cases none
  | led width _ found distinct =>
    refine iff_of_true ?_ ?_
    · intro group found'
      cases found.symm.trans found'
      exact ⟨leads distinct, distinct⟩
    · rintro ⟨_, _, first, _⟩
      cases first
  | @intruded event rest later _ found distinct only =>
    constructor
    · intro formed
      obtain ⟨⟨width, _, leader, _⟩, _⟩ := formed _ found
      rintro ⟨_, _, first, other | ⟨r, member, claim⟩⟩
      · cases first
        exact other width (List.cons.inj leader).1
      · cases first
        exact only r member claim
    · intro kept group found'
      cases found.symm.trans found'
      have leader : ∃ width, event = cycleLeader width d.plan.inherited := by
        by_contra none
        exact kept ⟨event, later, rfl, .inl fun width eq => none ⟨width, eq⟩⟩
      obtain ⟨width, rfl⟩ := leader
      exact ⟨leads distinct, distinct⟩
  | @preempted width event rest later _ found member claimed =>
    refine iff_of_false ?_ ?_
    · intro formed
      obtain ⟨⟨_, _, leader, others⟩, _⟩ := formed _ found
      cases leader
      exact others _ member rfl
    · exact fun kept => kept ⟨event, later, rfl, .inr claimed⟩

end DefaultGroup

/-! ## Plans of configurations -/

/-- A reserved set is the cycle counter and the events of one of four tables. -/
theorem ReservedSet.exists_table {number : Int64} {inherited : Bool} {events : List Event}
    (found : ReservedSet.events? number inherited = some events) :
    ∃ table ∈ [set0, set1, set2, set3], ∃ rest, events = cycleLeader .bits32 inherited :: rest ∧
      events.map (·.name) = cycleLeaderName :: table.map (·.name) := by
  obtain ⟨table, known, rfl⟩ := Option.map_eq_some_iff.mp found
  refine ⟨table, ?_, _, rfl, ?_⟩
  · unfold table? at known
    simp only [List.mem_cons, List.not_mem_nil, or_false]
    split at known
    · exact .inl (Option.some.inj known).symm
    · split at known
      · exact .inr (.inl (Option.some.inj known).symm)
      · split at known
        · exact .inr (.inr (.inl (Option.some.inj known).symm))
        · split at known
          · exact .inr (.inr (.inr (Option.some.inj known).symm))
          · cases known
  · rw [List.map_cons, List.map_map]
    rfl

/-- A reserved set is led by the cycle counter, and its names are different and not reserved. -/
theorem ReservedSet.wellFormed {number : Int64} {inherited : Bool} {events : List Event}
    (found : ReservedSet.events? number inherited = some events) :
    LedByCycles inherited events ∧ DistinctNames events ∧ Unreserved events := by
  obtain ⟨table, listed, rest, rfl, names⟩ := exists_table found
  have tables : ∀ table ∈ [set0, set1, set2, set3],
      (cycleLeaderName :: table.map (·.name)).Nodup ∧
        ∀ name ∈ cycleLeaderName :: table.map (·.name), name ∉ ["SUM", "CCthread", "device"] := by
    decide
  obtain ⟨distinct, unreserved⟩ := tables table listed
  rw [← names] at distinct unreserved
  refine ⟨⟨.bits32, rest, rfl, ?_⟩, distinct, ?_⟩
  · intro event member named
    have absent : cycleLeaderName ∉ rest.map (·.name) := (List.nodup_cons.mp distinct).1
    rw [← named] at absent
    exact absent (List.mem_map_of_mem member)
  · exact fun event member => unreserved _ (List.mem_map_of_mem member)

/-- The first event that is asked for in the default group is one of the device with the key of
that group; it is no cycle counter that could lead, or the leader is to come behind it. -/
def Config.Preempted (c : Config) (registry : Registry) (perApi : Bool) (pmuBits : Option Nat) :
    Prop :=
  c.reserved? = none ∧ ∃ event later,
    (c.requests registry perApi pmuBits).filter isForDefault =
      (.thread (some defaultDevice), event) :: later ∧
    ((∀ width, event ≠ cycleLeader width c.inherited) ∨ ∃ r ∈ later, r.1 = .thread none)

/-- Every plan is tidy, whatever the configuration and the devices are. -/
theorem Config.tidy_plan (c : Config) (registry : Registry) (perApi : Bool)
    (pmuBits : Option Nat) : (c.plan registry perApi pmuBits).1.Tidy := by
  rcases c.plan_cases registry perApi pmuBits with ⟨events, set, made⟩ | ⟨_, made⟩
  · obtain ⟨number, _, found⟩ := Option.bind_eq_some_iff.mp set
    obtain ⟨⟨_, _, led, _⟩, distinct, unreserved⟩ := ReservedSet.wellFormed found
    rw [made]
    refine ⟨?_, ⟨List.forall_mem_nil _, List.nodup_nil⟩, tidyGroups_empty⟩
    intro key group at_key
    rw [Keyed.get?_insert] at at_key
    split at at_key
    · cases at_key
      refine ⟨?_, unreserved, fun _ => distinct⟩
      rw [led]
      exact List.cons_ne_nil _ _
    · cases at_key
  · rw [made]
    apply Draft.tidy_foldl_serve _ (c.unreserved_requests registry perApi pmuBits)
    exact ⟨tidyGroups_empty, ⟨List.forall_mem_nil _, List.nodup_nil⟩, tidyGroups_empty⟩

/-- Of every plan: no group of a device or of a coherent subsystem unit is empty, no event has a
reserved name, and the names of a group are different, those of the default group apart.  The
default group, if there is one, has different names and is led by the only cycle counter of its
name exactly when it is not preempted. -/
theorem Config.wellFormed_plan_iff (c : Config) (registry : Registry) (perApi : Bool)
    (pmuBits : Option Nat) :
    let p := (c.plan registry perApi pmuBits).1
    (∀ key group, p.deviceEvents.get? key = some group →
      group ≠ [] ∧ Unreserved group ∧ (key ≠ defaultDevice → DistinctNames group)) ∧
    (Unreserved p.interconnectEvents ∧ DistinctNames p.interconnectEvents) ∧
    (∀ key group, p.cspmuEvents.get? key = some group →
      group ≠ [] ∧ Unreserved group ∧ DistinctNames group) ∧
    ((∀ group, p.deviceEvents.get? defaultDevice = some group →
        LedByCycles c.inherited group ∧ DistinctNames group) ↔
      ¬c.Preempted registry perApi pmuBits) := by
  intro p
  obtain ⟨device, interconnect, cspmu⟩ := c.tidy_plan registry perApi pmuBits
  refine ⟨device, interconnect, ?_, ?_⟩
  · intro key group found
    obtain ⟨filled, unreserved, distinct⟩ := cspmu key group found
    exact ⟨filled, unreserved, distinct trivial⟩
  rcases c.plan_cases registry perApi pmuBits with ⟨events, set, made⟩ | ⟨unset, made⟩
  · refine iff_of_true ?_ ?_
    · intro group found
      obtain ⟨number, _, listed⟩ := Option.bind_eq_some_iff.mp set
      obtain ⟨led, distinct, _⟩ := ReservedSet.wellFormed listed
      simp only [p, made, Keyed.get?_insert, if_pos] at found
      cases found
      exact ⟨led, distinct⟩
    · rintro ⟨unset, _⟩
      cases set.symm.trans unset
  · let blank : Plan := { allThread := c.countsBackground perApi, inherited := c.inherited }
    have state : DefaultGroup { plan := blank } [] := .absent rfl rfl
    have served := state.foldl_serve (c.requests registry perApi pmuBits)
    have formed := served.wellFormed_iff
    rw [(Draft.settings_foldl_serve _ _).2, ← made, List.nil_append] at formed
    rw [Preempted, unset]
    simpa using formed

/-- A device with the key of the default group, and a document that asks for its cycles and for an
event of the default device. -/
def sampleDevices : Registry :=
  ⟨.dir [("single", .dir [("type", .file (some "8\n"))])], "/"⟩

def sampleClash : Json :=
  .arr [.null, .null, .arr [
    .arr [.str "CPUCycleCount", .int 17, .null, .str "single", .null, .null, .null, .null, .null,
      .null, .null],
    .arr [.str "A", .int 1, .int 4, .null, .null, .null, .null, .null, .null, .null, .null]]]

/-- The default group of that document has two events of one name, and the leader is the second. -/
theorem Config.not_wellFormed_plan_sampleClash :
    ∃ c group, Config.load sampleClash = .ok c ∧
      (c.plan sampleDevices false none).1.deviceEvents.get? defaultDevice = some group ∧
      ¬DistinctNames group ∧ ¬LedByCycles c.inherited group := by
  let c : Config := { events := [
    .arr [.str "CPUCycleCount", .int 17, .null, .str "single", .null, .null, .null, .null, .null,
      .null, .null],
    .arr [.str "A", .int 1, .int 4, .null, .null, .null, .null, .null, .null, .null, .null]] }
  have events : ((c.plan sampleDevices false none).1.deviceEvents.get? defaultDevice).map
      (·.map fun e => (e.name, e.type)) =
      some [("CPUCycleCount", 8), ("CPUCycleCount", 0), ("A", 4)] := by
    simp only [c]
    cbv
  obtain ⟨group, found, listed⟩ := Option.map_eq_some_iff.mp events
  refine ⟨c, group, rfl, found, ?_, ?_⟩
  · have names : group.map (·.name) = ["CPUCycleCount", "CPUCycleCount", "A"] := by
      have first := congrArg (List.map Prod.fst) listed
      rwa [List.map_map] at first
    rw [DistinctNames, names]
    decide
  · rintro ⟨width, rest, led, _⟩
    rw [led] at listed
    cases (List.cons.inj listed).1

end ScopeMeter

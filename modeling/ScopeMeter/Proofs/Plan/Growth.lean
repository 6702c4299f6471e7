import Mathlib
import ScopeMeter.Proofs.Plan.Groups

/-!
# Plans of longer event lists

An element of the event list that is skipped (`Skipped` tells for which reasons) leaves no trace in
the plan, and what stands further down in the list only puts events behind the groups
(`Config.plan_append`).  Both follow from the requests of the list: those of a list in two parts are
the requests of the parts, and serving a request makes every group grow at its end.
-/

namespace ScopeMeter

/-- Why an element of the event list is skipped. -/
inductive Skipped (registry : Registry) (perApi : Bool) (pmuBits : Option Nat) (raw : Json) : Prop
  | malformed : Entry.ofJson? raw = none → Skipped registry perApi pmuBits raw
  | reserved {e : Entry} : Entry.ofJson? raw = some e → e.name ∈ ["SUM", "CCthread", "device"] →
    Skipped registry perApi pmuBits raw
  | noFamily {e : Entry} : Entry.ofJson? raw = some e → e.type = none → e.rawDevice = none →
    Skipped registry perApi pmuBits raw
  | otherWidth {e : Entry} {bits : Nat} : Entry.ofJson? raw = some e → perApi = true →
    pmuBits = some bits → e.wantedBits ≠ bits → Skipped registry perApi pmuBits raw
  | unresolved {e : Entry} {device : String} : Entry.ofJson? raw = some e →
    e.rawDevice = some device → device ≠ "" → (∀ type, registry.resolve device ≠ .ok type) →
    Skipped registry perApi pmuBits raw

/-- Each group of the first map is the front of the one with its key in the second. -/
def GroupsGrow (groups groups' : Keyed (List Event)) : Prop :=
  ∀ key group, groups.get? key = some group →
    ∃ group', groups'.get? key = some group' ∧ group <+: group'

/-- Each group of the first plan is the front of the same group of the second. -/
structure Plan.Grows (p p' : Plan) : Prop where
  device : GroupsGrow p.deviceEvents p'.deviceEvents
  interconnect : p.interconnectEvents <+: p'.interconnectEvents
  cspmu : GroupsGrow p.cspmuEvents p'.cspmuEvents

variable {groups groups' groups'' : Keyed (List Event)} {registry : Registry} {perApi : Bool}
  {pmuBits : Option Nat} {raw : Json}

/-! ## What is skipped -/

/-- An element that is skipped is no entry that counts. -/
theorem Skipped.not_isAccepted (skipped : Skipped registry perApi pmuBits raw) (c : Config) :
    ∀ e, Entry.ofJson? raw = some e → ¬e.isAccepted (c.context registry perApi pmuBits) := by
  intro e decoded accepted
  obtain ⟨named, family, fits, resolved⟩ := Entry.isAccepted_iff.mp accepted
  cases skipped with
  | malformed fails => cases fails.symm.trans decoded
  | reserved decoded' used =>
    cases decoded.symm.trans decoded'
    exact named used
  | noFamily decoded' untyped undirected =>
    cases decoded.symm.trans decoded'
    rw [untyped, undirected] at family
    cases family
  | otherWidth decoded' calls known other =>
    cases decoded.symm.trans decoded'
    subst calls known
    rw [← e.bits_width] at other
    have mismatch : e.mismatch? (some _) = some _ := Option.filter_some_pos (by simpa using other)
    cases fits.symm.trans mismatch
  | @unresolved _ device decoded' on nonempty unknown =>
    cases decoded.symm.trans decoded'
    have named : e.device = some device := by
      rw [Entry.device, on]
      exact Option.filter_some_pos (by simpa using nonempty)
    obtain ⟨type, found⟩ := resolved device named
    exact unknown type found

namespace Config

variable {c : Config} {l₁ l₂ : List Json}

/-- The requests of a list in two parts are those of the parts. -/
theorem requests_append (c : Config) (l₁ l₂ : List Json) :
    { c with events := l₁ ++ l₂ }.requests registry perApi pmuBits =
      { c with events := l₁ }.requests registry perApi pmuBits ++
        { c with events := l₂ }.requests registry perApi pmuBits := by
  simp only [requests, accepted, List.filterMap_append, List.filter_append, List.flatMap_append]
  rfl

/-- What is skipped asks for nothing. -/
theorem requests_of_skipped (skipped : Skipped registry perApi pmuBits raw) (c : Config) :
    { c with events := [raw] }.requests registry perApi pmuBits = [] := by
  have none : { c with events := [raw] }.accepted registry perApi pmuBits = [] := by
    apply List.filter_eq_nil_iff.mpr
    intro e member
    obtain ⟨_, listed, decoded⟩ := List.mem_filterMap.mp member
    rw [List.mem_singleton.mp listed] at decoded
    exact skipped.not_isAccepted _ e decoded
  rw [requests, none, List.flatMap_nil]

/-- Lists with the same requests make the same plan. -/
theorem plan_of_requests (same : { c with events := l₁ }.requests registry perApi pmuBits =
      { c with events := l₂ }.requests registry perApi pmuBits) :
    ({ c with events := l₁ }.plan registry perApi pmuBits).1 =
      ({ c with events := l₂ }.plan registry perApi pmuBits).1 := by
  rcases plan_cases { c with events := l₁ } registry perApi pmuBits with
    ⟨events, set, made⟩ | ⟨unset, made⟩ <;>
  rcases plan_cases { c with events := l₂ } registry perApi pmuBits with
    ⟨events', set', made'⟩ | ⟨unset', made'⟩
  · cases set.symm.trans set'
    rw [made, made']
    rfl
  · cases set.symm.trans unset'
  · cases unset.symm.trans set'
  · rw [made, made', same]
    rfl

end Config

/-! ## What grows -/

theorem GroupsGrow.refl (groups : Keyed (List Event)) : GroupsGrow groups groups :=
  fun _ group found => ⟨group, found, List.prefix_rfl⟩

theorem GroupsGrow.trans (first : GroupsGrow groups groups')
    (second : GroupsGrow groups' groups'') : GroupsGrow groups groups'' := by
  intro key group found
  obtain ⟨group', found', front⟩ := first key group found
  obtain ⟨group'', found'', front'⟩ := second key group' found'
  exact ⟨group'', found'', front.trans front'⟩

theorem prefix_addUnique (group : List Event) (event : Event) :
    group <+: addUnique group event := by
  rcases addUnique_cases group event with ⟨_, _, _, kept⟩ | ⟨_, grown⟩
  · exact ⟨[], by rw [List.append_nil, kept]⟩
  · exact ⟨[event], grown.symm⟩

/-- An event that is put behind a group leaves the other groups as they are. -/
theorem GroupsGrow.update (groups : Keyed (List Event)) (key : String) (event : Event) :
    GroupsGrow groups (groups.update key [] (addUnique · event)) := by
  intro k group found
  rw [Keyed.get?_update]
  split
  next same =>
    subst same
    rw [found]
    exact ⟨_, rfl, prefix_addUnique group event⟩
  next => exact ⟨group, found, List.prefix_rfl⟩

namespace Draft

variable {d : Draft}

/-- The leader comes behind what the default group holds already. -/
theorem groupsGrow_withLeader (d : Draft) (width : Width) :
    GroupsGrow d.plan.deviceEvents (d.withLeader width) := by
  intro key group found
  rw [get?_withLeader]
  split
  · rw [found]
    exact ⟨_, rfl, List.prefix_append ..⟩
  · exact ⟨group, found, List.prefix_rfl⟩

theorem grows_serve (d : Draft) (r : Target × Event) : d.plan.Grows (d.serve r).plan := by
  obtain ⟨target, event⟩ := r
  cases target with
  | thread key =>
    cases key with
    | none =>
      have led := (d.groupsGrow_withLeader event.width).trans (.update _ defaultDevice event)
      exact ⟨led, List.prefix_rfl, .refl _⟩
    | some key => exact ⟨.update _ key event, List.prefix_rfl, .refl _⟩
  | interconnect => exact ⟨.refl _, prefix_addUnique _ event, .refl _⟩
  | cspmu key => exact ⟨.refl _, List.prefix_rfl, .update _ key event⟩

theorem grows_foldl_serve (d : Draft) (rs : List (Target × Event)) :
    d.plan.Grows (rs.foldl serve d).plan := by
  induction rs generalizing d with
  | nil => exact ⟨.refl _, List.prefix_rfl, .refl _⟩
  | cons r rs ih =>
    obtain ⟨device, interconnect, cspmu⟩ := d.grows_serve r
    obtain ⟨device', interconnect', cspmu'⟩ := ih (d.serve r)
    exact ⟨device.trans device', interconnect.trans interconnect', cspmu.trans cspmu'⟩

end Draft

/-- An element of the event list that is skipped changes nothing of the plan, wherever it stands;
and what stands behind a part of the list only puts events behind the groups of that part. -/
theorem Config.plan_append (c : Config) (registry : Registry) (perApi : Bool)
    (pmuBits : Option Nat) (l₁ l₂ : List Json) :
    (∀ raw, Skipped registry perApi pmuBits raw →
      ({ c with events := l₁ ++ [raw] ++ l₂ }.plan registry perApi pmuBits).1 =
        ({ c with events := l₁ ++ l₂ }.plan registry perApi pmuBits).1) ∧
    ({ c with events := l₁ }.plan registry perApi pmuBits).1.Grows
      ({ c with events := l₁ ++ l₂ }.plan registry perApi pmuBits).1 := by
  constructor
  · intro raw skipped
    apply plan_of_requests
    rw [requests_append, requests_append, requests_append, requests_of_skipped skipped,
      List.append_nil]
  rcases plan_cases { c with events := l₁ } registry perApi pmuBits with
    ⟨events, set, made⟩ | ⟨unset, made⟩ <;>
  rcases plan_cases { c with events := l₁ ++ l₂ } registry perApi pmuBits with
    ⟨events', set', made'⟩ | ⟨unset', made'⟩
  · cases set.symm.trans set'
    rw [made, made']
    exact ⟨.refl _, List.prefix_rfl, .refl _⟩
  · cases set.symm.trans unset'
  · cases unset.symm.trans set'
  · rw [made, made', requests_append, List.foldl_append]
    exact Draft.grows_foldl_serve _ _

/-- A unit with a family, and entries for an event of it. -/
def sampleUnit : Registry :=
  ⟨.dir [("dsu", .dir [("type", .file (some "8\n"))])], "/"⟩

def sampleUnitEntry (name device : String) : Json :=
  .arr [.str name, .int 1, .null, .str device, .null, .null, .bool true, .null, .null, .null, .null]

def sampleUnitPlan (events : List Json) : Plan :=
  (({ events } : Config).plan sampleUnit false none).1

/-- An entry of a device that is not there, between two of one that is. -/
theorem Config.plan_append_sampleUnit :
    let first := sampleUnitEntry "A" "dsu"
    let stray := sampleUnitEntry "B" "gpu"
    let last := sampleUnitEntry "C" "dsu"
    sampleUnitPlan ([first] ++ [stray] ++ [last]) = sampleUnitPlan ([first] ++ [last]) ∧
    ∃ group group' : List Event, (sampleUnitPlan [first]).deviceEvents.get? "dsu" = some group ∧
      (sampleUnitPlan ([first] ++ [last])).deviceEvents.get? "dsu" = some group' ∧
      group.map (·.name) = ["A"] ∧ group'.map (·.name) = ["A", "C"] ∧ group <+: group' := by
  intro first stray last
  obtain ⟨skips, grows⟩ := Config.plan_append {} sampleUnit false none [first] [last]
  have decoded : Entry.ofJson? stray = some
      { name := "B", config := 1, rawDevice := some "gpu", wide := some (.bool true) } := by
    cbv
  have unknown : ∀ type, sampleUnit.resolve "gpu" ≠ .ok type := by
    have fails : (sampleUnit.resolve "gpu").isOk = false := by cbv
    intro type found
    rw [found] at fails
    cases fails
  have named : ((sampleUnitPlan [sampleUnitEntry "A" "dsu"]).deviceEvents.get? "dsu").map
      (·.map (·.name)) = some ["A"] := by
    cbv
  have named' : ((sampleUnitPlan ([sampleUnitEntry "A" "dsu"] ++
      [sampleUnitEntry "C" "dsu"])).deviceEvents.get? "dsu").map (·.map (·.name)) =
        some ["A", "C"] := by
    cbv
  refine ⟨skips stray (.unresolved decoded rfl (by decide) unknown), ?_⟩
  obtain ⟨group, found, names⟩ := Option.map_eq_some_iff.mp named
  obtain ⟨group', found', front⟩ := grows.device "dsu" group found
  have again : (sampleUnitPlan ([first] ++ [last])).deviceEvents.get? "dsu" = some group' := found'
  rw [again] at named'
  exact ⟨group, group', found, found', names, Option.some.inj named', front⟩

end ScopeMeter

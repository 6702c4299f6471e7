import Mathlib
import ScopeMeter.Proofs.Plan.Groups

/-!
# Plans from requests

`Config.declared` makes a plan of what a configuration asks for in one piece: the requests sorted
by group, the cycle counter in front of those of the default group, and of each group the first
event of each name.  The plan that is grown entry by entry is the same
(`plan_eq_declared`) as long as no device has the key of the default group.
-/

namespace ScopeMeter

/-- The events that are asked for under a key. -/
def under (key : String) (asked : List (String × Event)) : List Event :=
  (asked.filter (·.1 = key)).map (·.2)

/-- The groups that events asked for under keys make. -/
def grouped (asked : List (String × Event)) : Keyed (List Event) :=
  .ofList (asked.map fun r => (r.1, firstOfEach (under r.1 asked)))

/-- The cycle counter comes before all that is asked for, with the width of the first event of the
default group, if that group has events. -/
def led (inherited : Bool) (asked : List (String × Event)) : List (String × Event) :=
  match under defaultDevice asked with
  | [] => asked
  | first :: _ => (defaultDevice, cycleLeader first.width inherited) :: asked

/-- A request for threads, by the key of its group. -/
def forThreads? : Target × Event → Option (String × Event)
  | (.thread device, event) => some (device.getD defaultDevice, event)
  | _ => none

def forInterconnect? : Target × Event → Option Event
  | (.interconnect, event) => some event
  | _ => none

/-- A request for a coherent subsystem unit, by its device. -/
def forCspmu? : Target × Event → Option (String × Event)
  | (.cspmu device, event) => some (device, event)
  | _ => none

/-- The plan of what a configuration asks for. -/
def Config.declared (c : Config) (registry : Registry) (perApi : Bool) (pmuBits : Option Nat) :
    Plan :=
  let asked := c.requests registry perApi pmuBits
  let inherited := Flag.orElse c.inherit true
  { deviceEvents := grouped (led inherited (asked.filterMap forThreads?))
    interconnectEvents := firstOfEach (asked.filterMap forInterconnect?)
    cspmuEvents := grouped (asked.filterMap forCspmu?)
    allThread := Flag.orElse c.allThread (!perApi)
    inherited }

variable {key : String} {event : Event} {asked : List (String × Event)}

/-! ## Groups by key -/

theorem under_concat_self (key : String) (asked : List (String × Event)) (event : Event) :
    under key (asked ++ [(key, event)]) = under key asked ++ [event] := by
  simp [under]

theorem under_concat_of_ne {k : String} (apart : k ≠ key) (asked : List (String × Event))
    (event : Event) : under key (asked ++ [(k, event)]) = under key asked := by
  simp [under, apart]

theorem under_cons_self (key : String) (event : Event) (asked : List (String × Event)) :
    under key ((key, event) :: asked) = event :: under key asked := by
  simp [under]

theorem under_cons_of_ne {k : String} (apart : k ≠ key) (event : Event)
    (asked : List (String × Event)) : under key ((k, event) :: asked) = under key asked := by
  simp [under, apart]

/-- A map made of one value for each key holds it under the keys. -/
theorem get?_foldl_insert (f : String → List Event) (m : Keyed (List Event)) :
    ((asked.map fun r => (r.1, f r.1)).foldl (fun m e => m.insert e.1 e.2) m).get? key =
      if under key asked = [] then m.get? key else some (f key) := by
  induction asked generalizing m with
  | nil => rfl
  | cons r asked ih =>
    obtain ⟨k, event⟩ := r
    rw [List.map_cons, List.foldl_cons, ih, Keyed.get?_insert]
    by_cases same : k = key
    · subst same
      rw [under_cons_self, if_neg (List.cons_ne_nil _ _), if_pos rfl, ite_self]
    · rw [under_cons_of_ne same, if_neg same]

theorem get?_grouped (key : String) (asked : List (String × Event)) :
    (grouped asked).get? key =
      if under key asked = [] then none else some (firstOfEach (under key asked)) :=
  get?_foldl_insert (fun key => firstOfEach (under key asked)) .empty

/-- What is asked for next is put behind the group of its key. -/
theorem grouped_concat (key : String) (asked : List (String × Event)) (event : Event) :
    grouped (asked ++ [(key, event)]) = (grouped asked).update key [] (addUnique · event) := by
  apply Keyed.ext_get?
  intro k
  rw [get?_grouped, Keyed.get?_update, get?_grouped, get?_grouped]
  by_cases same : key = k
  · subst same
    have filled : under key asked ++ [event] ≠ [] :=
      List.append_ne_nil_of_right_ne_nil _ (List.cons_ne_nil _ _)
    rw [under_concat_self, if_neg filled, if_pos rfl, firstOfEach_concat]
    split
    next none =>
      rw [none]
      rfl
    next => rfl
  · rw [under_concat_of_ne same, if_neg same]

/-- The leader alone makes a group of its own. -/
theorem grouped_cons (unasked : under key asked = []) (event : Event) :
    grouped ((key, event) :: asked) = (grouped asked).insert key [event] := by
  apply Keyed.ext_get?
  intro k
  rw [get?_grouped, Keyed.get?_insert, get?_grouped]
  by_cases same : key = k
  · subst same
    rw [under_cons_self, unasked, if_neg (List.cons_ne_nil _ _), if_pos rfl]
    rfl
  · rw [under_cons_of_ne same, if_neg same]

/-! ## The leader -/

theorem led_of_unasked (inherited : Bool) (unasked : under defaultDevice asked = []) :
    led inherited asked = asked := by
  rw [led, unasked]

/-- The leader is settled by the first event of the default group. -/
theorem led_concat (inherited : Bool) (r : String × Event)
    (settled : r.1 ≠ defaultDevice ∨ under defaultDevice asked ≠ []) :
    led inherited (asked ++ [r]) = led inherited asked ++ [r] := by
  obtain ⟨key, event⟩ := r
  unfold led
  cases begun : under defaultDevice asked with
  | nil =>
    have apart : key ≠ defaultDevice := settled.resolve_right fun begins => begins begun
    rw [under_concat_of_ne apart, begun]
  | cons first rest =>
    by_cases same : key = defaultDevice
    · subst same
      rw [under_concat_self, begun]
      rfl
    · rw [under_concat_of_ne same, begun]
      rfl

/-- The first event of the default group brings the leader. -/
theorem led_concat_first (inherited : Bool) (unasked : under defaultDevice asked = [])
    (event : Event) :
    led inherited (asked ++ [(defaultDevice, event)]) =
      (defaultDevice, cycleLeader event.width inherited) :: asked ++ [(defaultDevice, event)] := by
  rw [led, under_concat_self, unasked]
  rfl

/-! ## Serving requests -/

namespace Draft

/-- The draft holds what was asked for so far. -/
structure Holds (d : Draft) (asked : List (Target × Event)) : Prop where
  device : d.plan.deviceEvents = grouped (led d.plan.inherited (asked.filterMap forThreads?))
  interconnect : d.plan.interconnectEvents = firstOfEach (asked.filterMap forInterconnect?)
  cspmu : d.plan.cspmuEvents = grouped (asked.filterMap forCspmu?)
  leader : d.leaderPlaced = true ↔ under defaultDevice (asked.filterMap forThreads?) ≠ []

variable {d : Draft} {asked : List (Target × Event)}

/-- A request that tells of an event puts it behind what was told before. -/
theorem filterMap_concat_some {α : Type} (told? : Target × Event → Option α)
    (asked : List (Target × Event)) (r : Target × Event) {told : α} (tells : told? r = some told) :
    (asked ++ [r]).filterMap told? = asked.filterMap told? ++ [told] := by
  rw [List.filterMap_append, List.filterMap_cons_some tells, List.filterMap_nil]

theorem filterMap_concat_none {α : Type} {told? : Target × Event → Option α}
    {r : Target × Event} (tells : told? r = none) (asked : List (Target × Event)) :
    (asked ++ [r]).filterMap told? = asked.filterMap told? := by
  rw [List.filterMap_append, List.filterMap_cons_none tells, List.filterMap_nil, List.append_nil]

theorem Holds.serve_interconnect (holds : d.Holds asked) (event : Event) :
    (d.serve (.interconnect, event)).Holds (asked ++ [(.interconnect, event)]) := by
  obtain ⟨device, interconnect, cspmu, leader⟩ := holds
  refine ⟨?_, ?_, ?_, ?_⟩
  · rw [filterMap_concat_none rfl]
    exact device
  · rw [filterMap_concat_some forInterconnect? _ _ rfl, firstOfEach_concat, ← interconnect]
    rfl
  · rw [filterMap_concat_none rfl]
    exact cspmu
  · rw [filterMap_concat_none rfl]
    exact leader

theorem Holds.serve_cspmu (holds : d.Holds asked) (key : String) (event : Event) :
    (d.serve (.cspmu key, event)).Holds (asked ++ [(.cspmu key, event)]) := by
  obtain ⟨device, interconnect, cspmu, leader⟩ := holds
  refine ⟨?_, ?_, ?_, ?_⟩
  · rw [filterMap_concat_none rfl]
    exact device
  · rw [filterMap_concat_none rfl]
    exact interconnect
  · rw [filterMap_concat_some forCspmu? _ _ rfl, grouped_concat, ← cspmu]
    rfl
  · rw [filterMap_concat_none rfl]
    exact leader

/-- An event of a device that is not the default one leaves the leader as it is. -/
theorem Holds.serve_device (holds : d.Holds asked) {key : String} (apart : key ≠ defaultDevice)
    (event : Event) :
    (d.serve (.thread (some key), event)).Holds (asked ++ [(.thread (some key), event)]) := by
  obtain ⟨device, interconnect, cspmu, leader⟩ := holds
  refine ⟨?_, ?_, ?_, ?_⟩
  · rw [filterMap_concat_some forThreads? _ _ rfl, led_concat _ _ (.inl apart), Option.getD_some,
      grouped_concat]
    exact congrArg (·.update key [] (addUnique · event)) device
  · rw [filterMap_concat_none rfl]
    exact interconnect
  · rw [filterMap_concat_none rfl]
    exact cspmu
  · rw [filterMap_concat_some forThreads? _ _ rfl, Option.getD_some, under_concat_of_ne apart]
    exact leader

/-- The leader is placed when the first event of the default group is asked for. -/
theorem Holds.withLeader (holds : d.Holds asked) (event : Event) :
    let asked' := asked.filterMap forThreads? ++ [(defaultDevice, event)]
    (d.withLeader event.width).update defaultDevice [] (addUnique · event) =
      grouped (led d.plan.inherited asked') := by
  intro asked'
  cases placed : d.leaderPlaced with
  | true =>
    have begun := holds.leader.mp placed
    rw [led_concat _ _ (.inr begun), grouped_concat, ← holds.device, Draft.withLeader,
      if_pos placed]
  | false =>
    have unasked : under defaultDevice (asked.filterMap forThreads?) = [] := by
      by_contra begun
      rw [holds.leader.mpr begun] at placed
      cases placed
    have leader : d.withLeader event.width = (d.plan.deviceEvents).insert defaultDevice
        [cycleLeader event.width d.plan.inherited] := by
      apply Keyed.ext_get?
      intro key
      have missing : d.plan.deviceEvents.get? defaultDevice = none := by
        rw [holds.device, led_of_unasked _ unasked, get?_grouped, if_pos unasked]
      rw [Draft.get?_withLeader, Keyed.get?_insert]
      by_cases same : key = defaultDevice
      · subst same
        rw [if_pos ⟨placed, rfl⟩, if_pos rfl, missing]
        rfl
      · rw [if_neg fun both => same both.2, if_neg fun eq => same eq.symm]
    rw [led_concat_first _ unasked, grouped_concat, grouped_cons unasked, leader,
      holds.device, led_of_unasked _ unasked]

theorem Holds.serve_default (holds : d.Holds asked) (event : Event) :
    (d.serve (.thread none, event)).Holds (asked ++ [(.thread none, event)]) := by
  have device := holds.withLeader event
  refine ⟨?_, ?_, ?_, ?_⟩
  · rw [filterMap_concat_some forThreads? _ _ rfl, Option.getD_none]
    exact device
  · rw [filterMap_concat_none rfl]
    exact holds.interconnect
  · rw [filterMap_concat_none rfl]
    exact holds.cspmu
  · rw [filterMap_concat_some forThreads? _ _ rfl, Option.getD_none, under_concat_self]
    exact iff_of_true rfl (List.append_ne_nil_of_right_ne_nil _ (List.cons_ne_nil _ _))

/-- Serving requests keeps to what was asked for. -/
theorem Holds.foldl_serve (holds : d.Holds asked) {rs : List (Target × Event)}
    (apart : ∀ r ∈ rs, r.1 ≠ .thread (some defaultDevice)) :
    (rs.foldl Draft.serve d).Holds (asked ++ rs) := by
  induction rs generalizing d asked with
  | nil => rwa [List.append_nil]
  | cons r rs ih =>
    rw [List.append_cons]
    obtain ⟨first, rest⟩ := List.forall_mem_cons.mp apart
    refine ih ?_ rest
    obtain ⟨target, event⟩ := r
    cases target with
    | interconnect => exact holds.serve_interconnect event
    | cspmu key => exact holds.serve_cspmu key event
    | thread key =>
      cases key with
      | none => exact holds.serve_default event
      | some key =>
        have other : key ≠ defaultDevice := fun same => first (by rw [same])
        exact holds.serve_device other event

end Draft

/-! ## Plans of configurations -/

/-- Only the numbers 0 to 3 name a reserved set. -/
theorem Config.reserved?_eq_none {c : Config}
    (unset : ∀ number, c.set = some number → number < 0 ∨ 3 < number) : c.reserved? = none := by
  unfold reserved?
  cases set : c.set with
  | none => rfl
  | some number =>
    have outside := unset number set
    have unknown : ReservedSet.table? number = none := by
      unfold ReservedSet.table?
      rw [if_neg, if_neg, if_neg, if_neg]
      all_goals
        rintro rfl
        exact absurd outside (by decide)
    exact congrArg (Option.map _) unknown

/-- What is asked for in the group of a device comes from an entry with that device. -/
theorem Entry.device_of_requests {e : Entry} {context : PlanContext} {r : Target × Event}
    {device : String} (asked : r ∈ e.requests context) (on : r.1 = .thread (some device)) :
    e.rawDevice = some device := by
  have named : e.device = some device := by
    unfold requests at asked
    split at asked
    next device' named =>
      split at asked
      · rw [List.mem_singleton.mp asked] at on
        cases on
      · rw [List.mem_singleton.mp asked] at on
        cases on
        exact named
    · split at asked
      · split at asked
        · obtain ⟨_, _, rfl⟩ := List.mem_map.mp asked
          cases on
        · rw [List.mem_singleton.mp asked] at on
          cases on
      · rw [List.mem_singleton.mp asked] at on
        cases on
  exact (Option.filter_eq_some_iff.mp named).1

/-- Without a reserved set, and with no device that has the key of the default group, the plan is
what its configuration declares. -/
theorem Config.plan_eq_declared (c : Config) (registry : Registry) (perApi : Bool)
    (pmuBits : Option Nat) (unset : ∀ number, c.set = some number → number < 0 ∨ 3 < number)
    (apart : ∀ raw ∈ c.events, ∀ e, Entry.ofJson? raw = some e → e.rawDevice ≠ some "single") :
    (c.plan registry perApi pmuBits).1 = c.declared registry perApi pmuBits := by
  have free := reserved?_eq_none unset
  rcases c.plan_cases registry perApi pmuBits with ⟨_, set, _⟩ | ⟨_, made⟩
  · cases free.symm.trans set
  let blank : Plan := { allThread := c.countsBackground perApi, inherited := c.inherited }
  have begun : Draft.Holds { plan := blank } [] :=
    ⟨rfl, rfl, rfl, iff_of_false nofun fun some => some rfl⟩
  have elsewhere : ∀ r ∈ c.requests registry perApi pmuBits,
      r.1 ≠ .thread (some defaultDevice) := by
    intro r member on
    obtain ⟨e, counted, asked⟩ := List.mem_flatMap.mp member
    obtain ⟨raw, listed, decoded⟩ := List.mem_filterMap.mp (List.mem_filter.mp counted).1
    exact apart raw listed e decoded (Entry.device_of_requests asked on)
  obtain ⟨device, interconnect, cspmu, _⟩ := begun.foldl_serve elsewhere
  obtain ⟨background, inherited⟩ := Draft.settings_foldl_serve { plan := blank }
    (c.requests registry perApi pmuBits)
  rw [inherited] at device
  rw [made, declared]
  exact Plan.ext device interconnect cspmu background inherited

/-- A document that asks for events of every kind; the first has the name of the leader, and one
comes twice. -/
def sampleRequests : Config := { events := [
  .arr [.str "CPUCycleCount", .int 17, .int 4, .null, .null, .null, .bool true, .null, .null,
    .null, .null],
  .arr [.str "A", .int 1, .null, .str "dsu", .null, .null, .null, .null, .null, .null, .null],
  .arr [.str "A", .int 2, .int 4, .str "", .null, .null, .null, .null, .null, .null, .null],
  .arr [.str "A", .int 3, .int 4, .null, .null, .null, .null, .null, .null, .null, .null],
  .arr [.str "B", .int 4, .null, .str "dsu", .null, .null, .null, .null, .bool true, .null, .null],
  .arr [.str "C", .int 5, .int 8, .null, .null, .null, .null, .bool true, .null, .str "hnf",
    .bool true, .arr [.int 7, .int 9]]] }

def sampleUnits : Registry :=
  ⟨.dir [("dsu", .dir [("type", .file (some "8\n"))])], "/"⟩

theorem Config.plan_eq_declared_sampleRequests :
    (sampleRequests.plan sampleUnits false none).1 =
      sampleRequests.declared sampleUnits false none ∧
    ((sampleRequests.declared sampleUnits false none).deviceEvents.get? defaultDevice).map
      (·.map fun event => (event.name, event.config)) = some [("CPUCycleCount", 0), ("A", 2)] := by
  refine ⟨sampleRequests.plan_eq_declared sampleUnits false none nofun ?_, by cbv⟩
  have elsewhere : sampleRequests.events.all fun raw =>
      (Entry.ofJson? raw).all fun e => e.rawDevice ≠ some "single" := by
    cbv
  intro raw listed e decoded
  have at_raw := List.all_eq_true.mp elsewhere raw listed
  rw [decoded] at at_raw
  simpa using at_raw

end ScopeMeter

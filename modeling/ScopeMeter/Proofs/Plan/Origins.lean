import ScopeMeter.Proofs.Plan.Growth

/-!
# Where the events of a group come from

A request changes the groups that it is for (`Target.isFor`) and no other.  What it brings there
(`Brings`) is the event it asks for, and the leader of the default group, which comes along with
the first event without a device.  So while requests are served a group grows at its end by what
they bring (`Draft.grown_foldl_serve`), and its names are exactly the names of what they bring
(`Config.mem_names_plan_iff`).
-/

namespace ScopeMeter

/-- The key of the group that the bindings of a class open for their thread. -/
def DeviceClass.threadKey? : DeviceClass → Option String
  | .single => some defaultDevice
  | .pmu device => some device
  | .cspmu _ | .interconnect => none

/-- Whether the group of a target is the one that the bindings of a class open. -/
def Target.isFor : Target → DeviceClass → Prop
  | .thread device, kind => kind.threadKey? = some (device.getD defaultDevice)
  | .interconnect, kind => kind = .interconnect
  | .cspmu device, kind => kind = .cspmu device

/-- What a request brings into the group of a class. -/
inductive Brings (inherited : Bool) (kind : DeviceClass) : Target × Event → Event → Prop
  | asked {target : Target} {event : Event} : target.isFor kind →
    Brings inherited kind (target, event) event
  | leader {event : Event} : (Target.thread none).isFor kind →
    Brings inherited kind (.thread none, event) (cycleLeader event.width inherited)

variable {kind : DeviceClass} {r : Target × Event} {event : Event} {inherited : Bool}

theorem Brings.isFor (brings : Brings inherited kind r event) : r.1.isFor kind := by
  cases brings with
  | asked reached => exact reached
  | leader reached => exact reached

/-- The groups of threads are told by their keys. -/
theorem Plan.eventsFor_of_threadKey {p : Plan} {key : String}
    (keyed : kind.threadKey? = some key) :
    p.eventsFor kind = (p.deviceEvents.get? key).getD [] := by
  cases kind <;> cases keyed <;> rfl

namespace Draft

variable {d : Draft}

/-! ## One request -/

/-- What comes in front of the event of a request: the leader, unless it has its place. -/
def lead (d : Draft) : Target × Event → List Event
  | (.thread none, event) =>
    if d.leaderPlaced then [] else [cycleLeader event.width d.plan.inherited]
  | _ => []

theorem eventsFor_serve_of_isFor (d : Draft) (reached : r.1.isFor kind) :
    (d.serve r).plan.eventsFor kind = addUnique (d.plan.eventsFor kind ++ d.lead r) r.2 := by
  obtain ⟨target, event⟩ := r
  cases target with
  | thread device =>
    rw [Plan.eventsFor_of_threadKey reached, Plan.eventsFor_of_threadKey reached]
    cases device with
    | none =>
      rw [plan_serve_default, Option.getD_none, Keyed.get?_update, if_pos rfl, Option.getD_some,
        get?_withLeader, lead]
      cases d.leaderPlaced with
      | true => rw [if_neg (by simp), if_pos rfl, List.append_nil]
      | false => rw [if_pos ⟨rfl, rfl⟩, if_neg (by simp), Option.getD_some]
    | some device =>
      rw [plan_serve_device, Option.getD_some, Keyed.get?_update, if_pos rfl, Option.getD_some,
        lead, List.append_nil]
      nofun
  | interconnect =>
    cases reached
    exact congrArg (addUnique · event) (List.append_nil _).symm
  | cspmu device =>
    cases reached
    have here : (d.serve (.cspmu device, event)).plan.cspmuEvents =
        d.plan.cspmuEvents.update device [] (addUnique · event) := rfl
    rw [Plan.eventsFor, here, Keyed.get?_update, if_pos rfl, Option.getD_some]
    exact congrArg (addUnique · event) (List.append_nil _).symm

theorem eventsFor_serve_of_not_isFor (d : Draft) (missed : ¬r.1.isFor kind) :
    (d.serve r).plan.eventsFor kind = d.plan.eventsFor kind := by
  obtain ⟨target, event⟩ := r
  cases target with
  | thread device =>
    cases keyed : kind.threadKey? with
    | none => cases kind <;> cases keyed <;> cases device <;> rfl
    | some key =>
      have apart : device.getD defaultDevice ≠ key :=
        fun same => missed (keyed.trans (congrArg some same.symm))
      rw [Plan.eventsFor_of_threadKey keyed, Plan.eventsFor_of_threadKey keyed]
      cases device with
      | none =>
        rw [Option.getD_none] at apart
        rw [plan_serve_default, Keyed.get?_update, if_neg apart, get?_withLeader,
          if_neg fun both => apart both.2.symm]
      | some device =>
        rw [Option.getD_some] at apart
        rw [plan_serve_device, Keyed.get?_update, if_neg apart]
  | interconnect =>
    cases kind with
    | interconnect => exact absurd rfl missed
    | _ => rfl
  | cspmu device =>
    cases kind with
    | cspmu unit =>
      have apart : device ≠ unit := fun same => missed (congrArg DeviceClass.cspmu same.symm)
      have here : (d.serve (.cspmu device, event)).plan.cspmuEvents =
          d.plan.cspmuEvents.update device [] (addUnique · event) := rfl
      rw [Plan.eventsFor, here, Keyed.get?_update, if_neg apart]
      rfl
    | _ => rfl

/-- Only the default group is led, and by what the request brings there. -/
theorem brings_of_mem_lead (reached : r.1.isFor kind) (leads : event ∈ d.lead r) :
    Brings d.plan.inherited kind r event := by
  unfold lead at leads
  split at leads
  · split at leads
    · cases leads
    · rw [List.mem_singleton.mp leads]
      exact .leader reached
  · cases leads

/-- A group grows at its end by what a request brings. -/
theorem grown_serve (d : Draft) (r : Target × Event) (kind : DeviceClass) :
    ∃ new, (d.serve r).plan.eventsFor kind = d.plan.eventsFor kind ++ new ∧
      ∀ event ∈ new, Brings d.plan.inherited kind r event := by
  by_cases reached : r.1.isFor kind
  · rw [eventsFor_serve_of_isFor d reached]
    rcases addUnique_cases (d.plan.eventsFor kind ++ d.lead r) r.2 with ⟨_, _, _, kept⟩ | ⟨_, grown⟩
    · exact ⟨d.lead r, kept, fun _ leads => brings_of_mem_lead reached leads⟩
    · refine ⟨d.lead r ++ [r.2], by rw [grown, List.append_assoc], ?_⟩
      intro event member
      rcases List.mem_append.mp member with leads | own
      · exact brings_of_mem_lead reached leads
      · rw [List.mem_singleton.mp own]
        exact .asked reached
  · exact ⟨[], by rw [eventsFor_serve_of_not_isFor d reached, List.append_nil],
      fun _ member => nomatch member⟩

theorem inherited_serve (d : Draft) (r : Target × Event) :
    (d.serve r).plan.inherited = d.plan.inherited :=
  (settings_foldl_serve d [r]).2

/-! ## All requests -/

/-- A group grows at its end by what the requests bring. -/
theorem grown_foldl_serve (d : Draft) (rs : List (Target × Event)) (kind : DeviceClass) :
    ∃ new, (rs.foldl serve d).plan.eventsFor kind = d.plan.eventsFor kind ++ new ∧
      ∀ event ∈ new, ∃ r ∈ rs, Brings d.plan.inherited kind r event := by
  induction rs generalizing d with
  | nil => exact ⟨[], (List.append_nil _).symm, fun _ member => nomatch member⟩
  | cons r rs ih =>
    obtain ⟨first, grown, brought⟩ := d.grown_serve r kind
    obtain ⟨rest, grown', brought'⟩ := ih (d.serve r)
    refine ⟨first ++ rest, by rw [List.foldl_cons, grown', grown, List.append_assoc], ?_⟩
    intro event member
    rcases List.mem_append.mp member with first | rest
    · exact ⟨r, List.mem_cons_self, brought event first⟩
    · obtain ⟨r', listed, brings⟩ := brought' event rest
      rw [inherited_serve] at brings
      exact ⟨r', List.mem_cons_of_mem _ listed, brings⟩

/-- Once the leader has its place, the default group has an event of its name. -/
def Led (d : Draft) : Prop :=
  d.leaderPlaced = true → ∀ kind, (Target.thread none).isFor kind →
    ∃ e ∈ d.plan.eventsFor kind, e.name = cycleLeaderName

/-- What a request brings is there under its name, at the latest when it was served. -/
theorem Led.name_serve (led : d.Led) (brings : Brings d.plan.inherited kind r event) :
    ∃ e ∈ (d.serve r).plan.eventsFor kind, e.name = event.name := by
  rw [eventsFor_serve_of_isFor d brings.isFor]
  obtain ⟨others, grown⟩ := prefix_addUnique (d.plan.eventsFor kind ++ d.lead r) r.2
  cases brings with
  | @asked _ event reached =>
    rcases addUnique_cases (d.plan.eventsFor kind ++ d.lead (_, event)) event with
      ⟨e, member, named, kept⟩ | ⟨_, longer⟩
    · exact ⟨e, by rwa [kept], named⟩
    · exact ⟨event, by rw [longer]; exact List.mem_append_right _ (List.mem_singleton_self _), rfl⟩
  | @leader event reached =>
    cases placed : d.leaderPlaced with
    | true =>
      obtain ⟨e, member, named⟩ := led placed kind reached
      rw [← grown]
      exact ⟨e, List.mem_append_left _ (List.mem_append_left _ member), named⟩
    | false =>
      have leads : cycleLeader event.width d.plan.inherited ∈ d.lead (.thread none, event) := by
        rw [lead, placed]
        exact List.mem_singleton_self _
      rw [← grown]
      exact ⟨_, List.mem_append_left _ (List.mem_append_right _ leads), rfl⟩

theorem Led.serve (led : d.Led) (r : Target × Event) : (d.serve r).Led := by
  intro placed kind reached
  by_cases settled : d.leaderPlaced = true
  · obtain ⟨e, member, named⟩ := led settled kind reached
    obtain ⟨new, grown, _⟩ := d.grown_serve r kind
    exact ⟨e, by rw [grown]; exact List.mem_append_left _ member, named⟩
  · obtain ⟨target, event⟩ := r
    have first : target = .thread none := by
      cases target with
      | thread device =>
        cases device with
        | none => rfl
        | some device => exact absurd placed settled
      | _ => exact absurd placed settled
    subst first
    have brings : Brings d.plan.inherited kind (.thread none, event) _ := .leader reached
    obtain ⟨e, member, named⟩ := led.name_serve brings
    exact ⟨e, member, named⟩

/-- The names of a group are those it had and those of what the requests bring. -/
theorem Led.mem_names_foldl_serve (led : d.Led) (rs : List (Target × Event)) (kind : DeviceClass)
    (name : String) :
    (∃ e ∈ (rs.foldl Draft.serve d).plan.eventsFor kind, e.name = name) ↔
      (∃ e ∈ d.plan.eventsFor kind, e.name = name) ∨
        ∃ r ∈ rs, ∃ event, Brings d.plan.inherited kind r event ∧ event.name = name := by
  constructor
  · rintro ⟨e, member, named⟩
    obtain ⟨new, grown, brought⟩ := d.grown_foldl_serve rs kind
    rw [grown] at member
    rcases List.mem_append.mp member with old | new
    · exact .inl ⟨e, old, named⟩
    · obtain ⟨r, listed, brings⟩ := brought e new
      exact .inr ⟨r, listed, e, brings, named⟩
  induction rs generalizing d with
  | nil =>
    rintro (old | ⟨r, none, _⟩)
    · exact old
    · cases none
  | cons r rs ih =>
    intro there
    apply ih (led.serve r)
    rcases there with ⟨e, member, named⟩ | ⟨r', listed, event, brings, named⟩
    · obtain ⟨new, grown, _⟩ := d.grown_serve r kind
      exact .inl ⟨e, by rw [grown]; exact List.mem_append_left _ member, named⟩
    · rcases List.mem_cons.mp listed with rfl | later
      · obtain ⟨e, member, same⟩ := led.name_serve brings
        exact .inl ⟨e, member, same.trans named⟩
      · rw [← inherited_serve d r] at brings
        exact .inr ⟨r', later, event, brings, named⟩

end Draft

namespace Config

/-- A request of the configuration brings an event of a name into the group of a class. -/
def Asks (c : Config) (registry : Registry) (perApi : Bool) (pmuBits : Option Nat)
    (kind : DeviceClass) (name : String) : Prop :=
  ∃ r ∈ c.requests registry perApi pmuBits, ∃ event,
    Brings c.inherited kind r event ∧ event.name = name

variable {c : Config} {registry : Registry} {perApi : Bool} {pmuBits : Option Nat}

/-- Without a reserved set the names of a group are those that the configuration asks for. -/
theorem mem_names_plan_iff (unset : c.reserved? = none) (kind : DeviceClass) (name : String) :
    name ∈ ((c.plan registry perApi pmuBits).1.eventsFor kind).map (·.name) ↔
      c.Asks registry perApi pmuBits kind name := by
  rw [List.mem_map]
  rcases c.plan_cases registry perApi pmuBits with ⟨_, set, _⟩ | ⟨_, made⟩
  · cases unset.symm.trans set
  · let blank : Plan := { allThread := c.countsBackground perApi, inherited := c.inherited }
    have led : Draft.Led { plan := blank } := nofun
    have none : blank.eventsFor kind = [] := by cases kind <;> rfl
    rw [made, led.mem_names_foldl_serve, none]
    exact or_iff_right fun ⟨_, member, _⟩ => nomatch member

end Config

end ScopeMeter

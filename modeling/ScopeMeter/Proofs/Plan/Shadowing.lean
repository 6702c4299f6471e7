import Mathlib
import ScopeMeter.Proofs.Binding.Writers
import ScopeMeter.Proofs.Plan.Origins
import ScopeMeter.Proofs.Plan.WellFormed

/-!
# Events that shadow series of scopes

The names that no event may have are those of result entries; the series that a stop flushes the
scopes into have other names, and no entry is skipped for one of these.  A group with such a name
is `Shadowed`, which `Config.shadowed_iff` reads off the entries.  `Config.one_writer_iff` says
what it means for the results: the bindings of a group that is not shadowed write each series in
one way along every run, and those of a shadowed group write some series in both.
-/

namespace ScopeMeter

open Accumulator (scopeNames)

/-- An event of a group has the name of a series that a stop of the group flushes. -/
def ShadowsScopes (group : List Event) : Prop :=
  ∃ name ∈ group.map (·.name), name ∈ scopeNames (group.map (·.name))

/-- No event of a reserved set has the name of a series of scopes. -/
theorem ReservedSet.not_shadowsScopes {number : Int64} {inherited : Bool} {events : List Event}
    (found : ReservedSet.events? number inherited = some events) : ¬ShadowsScopes events := by
  obtain ⟨table, listed, _, _, names⟩ := exists_table found
  have apart : ∀ table ∈ [set0, set1, set2, set3],
      ∀ name ∈ cycleLeaderName :: table.map (·.name),
        name ∉ scopeNames (cycleLeaderName :: table.map (·.name)) := by
    decide
  rintro ⟨name, event, scopes⟩
  rw [names] at event scopes
  exact apart table listed name event scopes

namespace Config

variable {c : Config} {registry : Registry} {perApi : Bool} {pmuBits : Option Nat}
  {kind : DeviceClass}

/-- The entries ask, in one group, for an event with the name of a series of calls, or for two
events one of which has the name of the series of sums of the other. -/
def Shadowed (c : Config) (registry : Registry) (perApi : Bool) (pmuBits : Option Nat)
    (kind : DeviceClass) : Prop :=
  c.reserved? = none ∧
    (c.Asks registry perApi pmuBits kind scopeCallsName ∨
      c.Asks registry perApi pmuBits kind scopeOwnCallsName ∨
      ∃ name, c.Asks registry perApi pmuBits kind name ∧
        c.Asks registry perApi pmuBits kind (scopeSumName name))

/-- Which groups are shadowed is told by the entries. -/
theorem shadowed_iff :
    ShadowsScopes ((c.plan registry perApi pmuBits).1.eventsFor kind) ↔
      c.Shadowed registry perApi pmuBits kind := by
  cases set : c.reserved? with
  | some events =>
    refine iff_of_false ?_ fun shadowed => nomatch set.symm.trans shadowed.1
    obtain ⟨number, _, found⟩ := Option.bind_eq_some_iff.mp set
    have own : ¬ShadowsScopes events := ReservedSet.not_shadowsScopes found
    have none : ¬ShadowsScopes [] := fun ⟨_, member, _⟩ => nomatch member
    rcases c.plan_cases registry perApi pmuBits with ⟨_, set', made⟩ | ⟨unset, _⟩
    · cases set.symm.trans set'
      rw [made]
      cases keyed : kind.threadKey? with
      | none => cases kind <;> cases keyed <;> exact none
      | some key =>
        rw [Plan.eventsFor_of_threadKey keyed, Keyed.get?_insert]
        split
        · exact own
        · exact none
    · cases set.symm.trans unset
  | none =>
    have asked : ∀ name, name ∈ ((c.plan registry perApi pmuBits).1.eventsFor kind).map (·.name) ↔
        c.Asks registry perApi pmuBits kind name := mem_names_plan_iff set kind
    constructor
    · rintro ⟨name, event, scopes⟩
      refine ⟨set, ?_⟩
      rcases List.mem_append.mp scopes with sum | call
      · obtain ⟨other, member, rfl⟩ := List.mem_map.mp sum
        exact .inr (.inr ⟨other, (asked other).mp member, (asked _).mp event⟩)
      · rcases List.mem_cons.mp call with rfl | call
        · exact .inl ((asked _).mp event)
        · rw [List.mem_singleton.mp call] at event
          exact .inr (.inl ((asked _).mp event))
    · rintro ⟨_, calls | own | ⟨name, event, sum⟩⟩
      · exact ⟨_, (asked _).mpr calls, List.mem_append_right _ List.mem_cons_self⟩
      · exact ⟨_, (asked _).mpr own,
          List.mem_append_right _ (List.mem_cons_of_mem _ (List.mem_singleton_self _))⟩
      · exact ⟨_, (asked _).mpr sum,
          List.mem_append_left _ (List.mem_map_of_mem ((asked _).mpr event))⟩

/-- Of every group of every plan: none of its events has the name of a series that its bindings
flush scopes into exactly if the entries do not shadow one.  Then along every run of a binding of
the group every series is lengthened by rounds only or by stops only; and in a shadowed group, on a
machine without planned faults, a scope, a stop and a round lengthen a series in both ways. -/
theorem one_writer_iff (c : Config) (registry : Registry) (perApi : Bool) (pmuBits : Option Nat)
    (kind : DeviceClass) :
    let group := (c.plan registry perApi pmuBits).1.eventsFor kind
    let names := group.map (·.name)
    ((∀ name ∈ names, name ∉ scopeNames names) ↔ ¬c.Shadowed registry perApi pmuBits kind) ∧
    ∀ b h, h.Sound → (b.init group h).result = .ok () →
      (¬c.Shadowed registry perApi pmuBits kind →
        ∀ name acts, (Rig.opening b group h).OneWriter name acts) ∧
      ((Rig.opening b group h).host.Faultless → c.Shadowed registry perApi pmuBits kind →
        ∃ name, ¬(Rig.opening b group h).OneWriter name Rig.scopeAndRound) := by
  intro group names
  have shadows : ShadowsScopes group ↔ c.Shadowed registry perApi pmuBits kind := shadowed_iff
  refine ⟨?_, ?_⟩
  · simp only [← shadows, ShadowsScopes, not_exists, not_and]
    rfl
  intro b h sound ok
  have opened := Rig.opened_of_init sound ok
  constructor
  · intro clear name acts
    refine opened.oneWriter ?_ name acts
    intro name event scopes
    exact clear (shadows.mp ⟨name, event, scopes⟩)
  · intro faultless shadowed
    obtain ⟨name, event, scopes⟩ := shadows.mpr shadowed
    rcases b.init_cases sound group with ⟨_, failed, _⟩ | ⟨_, _, _, fresh, _⟩
    · cases failed.symm.trans ok
    · exact ⟨name, opened.not_oneWriter faultless fresh ⟨0, Accumulator.level_new _⟩ event scopes⟩

/-- A document that asks for an event with the name of the series of calls. -/
def sampleShadow : Json :=
  .obj [("event", .arr [.obj [("config", .int 3), ("name", .str "CCthread:ScopeNumCalls"),
    ("type", .int 0)]])]

def sampleShadowed : Config :=
  { events := [.obj [("config", .int 3), ("name", .str "CCthread:ScopeNumCalls"),
    ("type", .int 0)]] }

def sampleShadowedGroup : List Event :=
  (sampleShadowed.plan sampleUnit false none).1.eventsFor .single

theorem names_sampleShadowedGroup :
    sampleShadowedGroup.map (·.name) = ["CPUCycleCount", "CCthread:ScopeNumCalls"] := by
  decide +kernel

/-- On a machine without counters so far a thread is counted with that group, and some series is
written in both ways. -/
theorem one_writer_iff_sampleShadow :
    let r := Rig.opening Rig.sampleThread sampleShadowedGroup {}
    (Rig.sampleThread.init sampleShadowedGroup {}).result = .ok () ∧ r.host.Faultless ∧
      sampleShadowed.Shadowed sampleUnit false none .single ∧
        ∃ name, ¬r.OneWriter name Rig.scopeAndRound := by
  intro r
  have opens : (Rig.sampleThread.init sampleShadowedGroup {}).result = .ok () := by decide +kernel
  have faultless : r.host.Faultless := by
    have none : r.host.faults = [] := by decide +kernel
    rw [Host.Faultless, none]
    exact List.forall_mem_nil _
  have shadows : ShadowsScopes sampleShadowedGroup := by
    rw [ShadowsScopes, names_sampleShadowedGroup]
    exact ⟨scopeCallsName, by decide, by decide⟩
  obtain ⟨_, writers⟩ := one_writer_iff sampleShadowed sampleUnit false none .single
  obtain ⟨_, twice⟩ := writers Rig.sampleThread {} (.of_counters_eq_nil rfl) opens
  have shadowed := shadowed_iff.mp shadows
  exact ⟨opens, faultless, shadowed, twice faultless shadowed⟩

/-- The event of that name is not skipped, and its series is written by a stop and by a round. -/
theorem two_writers_sampleShadow :
    load sampleShadow = .ok sampleShadowed ∧
      (∃ event ∈ sampleShadowedGroup, event.name ∈ scopeNames (sampleShadowedGroup.map (·.name))) ∧
      let r := Rig.opening Rig.sampleThread sampleShadowedGroup {}
      let closed := r.run [.start, .scopeStart 0 .known, .outside (.tick 7 none [5, 6]),
        .scopeStop 0 .known true]
      (closed.binding.results.get? "CCthread:ScopeNumCalls").isNone ∧
        (closed.run [.stop]).binding.results.get? "CCthread:ScopeNumCalls" =
          some (.ofValues [1]) ∧
        (closed.run [.stop, .collect 9]).binding.results.get? "CCthread:ScopeNumCalls" =
          some (.ofValues [1, 6]) := by
  refine ⟨rfl, ?_, ?_⟩
  · rw [names_sampleShadowedGroup]
    have named : scopeCallsName ∈ sampleShadowedGroup.map (·.name) := by
      rw [names_sampleShadowedGroup]
      decide
    obtain ⟨event, member, is⟩ := List.mem_map.mp named
    exact ⟨event, member, by rw [is]; decide⟩
  · decide +kernel

end Config

end ScopeMeter

import Mathlib.Data.List.Basic
import ScopeMeter.Proofs.Plan.Origins

/-!
# Names with the prefix of a unit

The name of an event of a coherent subsystem unit is the name of the unit, an underscore, and the
name that the entry gives it.  Both names may have underscores of their own, so two units can come
to events of one name: where the name of one unit goes on with the first parts of the other's
event (`cspmuName_eq_iff`).  `Config.collides_iff` reads off the entries whether that happens in a
plan.
-/

namespace ScopeMeter

open Entry (cspmuName)

/-- The name of the second unit goes on behind that of the first one as the event of the first one
begins, and both end alike. -/
def Overlap (device name device' name' : String) : Prop :=
  ∃ middle, device' = device ++ "_" ++ middle ∧ name = middle ++ "_" ++ name'

theorem toList_cspmuName (device name : String) :
    (cspmuName device name).toList = device.toList ++ '_' :: name.toList := by
  rw [cspmuName, String.toList_append, String.toList_append, List.append_assoc]
  rfl

theorem Overlap.ne {device name device' name' : String}
    (overlap : Overlap device name device' name') : device ≠ device' := by
  rintro rfl
  obtain ⟨middle, longer, _⟩ := overlap
  have lengths := congrArg (List.length ∘ String.toList) longer
  simp only [Function.comp_apply, String.toList_append, List.length_append] at lengths
  have underscore : "_".toList.length = 1 := rfl
  omega

/-- What follows a common front: nothing, or an underscore and what makes an overlap. -/
theorem overlap_of_front {device name device' name' : String} {rest : List Char}
    (front : device'.toList = device.toList ++ rest)
    (back : '_' :: name.toList = rest ++ '_' :: name'.toList) :
    device = device' ∧ name = name' ∨ Overlap device name device' name' := by
  cases rest with
  | nil =>
    rw [List.append_nil] at front
    exact .inl ⟨(String.toList_inj.mp front).symm,
      String.toList_inj.mp (List.cons.inj back).2⟩
  | cons c middle =>
    obtain ⟨rfl, behind⟩ := List.cons.inj back
    refine .inr ⟨String.ofList middle, ?_, ?_⟩ <;>
      rw [← String.toList_inj, ← cspmuName, toList_cspmuName, String.toList_ofList]
    · exact front
    · exact behind

theorem Overlap.cspmuName_eq {device name device' name' : String}
    (overlap : Overlap device name device' name') :
    cspmuName device name = cspmuName device' name' := by
  obtain ⟨middle, rfl, rfl⟩ := overlap
  simp only [cspmuName, String.append_assoc]

/-- Events of units have one name exactly if they are the same, or one overlaps the other. -/
theorem cspmuName_eq_iff {device name device' name' : String} :
    cspmuName device name = cspmuName device' name' ↔
      device = device' ∧ name = name' ∨
        Overlap device name device' name' ∨ Overlap device' name' device name := by
  constructor
  · intro same
    have chars := congrArg String.toList same
    rw [toList_cspmuName, toList_cspmuName, List.append_eq_append_iff] at chars
    rcases chars with ⟨rest, front, back⟩ | ⟨rest, front, back⟩
    · exact (overlap_of_front front back).imp_right .inl
    · rcases overlap_of_front front back with ⟨device, name⟩ | overlap
      · exact .inl ⟨device.symm, name.symm⟩
      · exact .inr (.inr overlap)
  · rintro (⟨rfl, rfl⟩ | overlap | overlap)
    · rfl
    · exact overlap.cspmuName_eq
    · exact overlap.cspmuName_eq.symm

namespace Config

variable {c : Config} {registry : Registry} {perApi : Bool} {pmuBits : Option Nat}

/-- An entry that counts asks for an event of a coherent subsystem unit. -/
def AsksUnit (c : Config) (registry : Registry) (perApi : Bool) (pmuBits : Option Nat)
    (device name : String) : Prop :=
  ∃ e ∈ c.accepted registry perApi pmuBits, e.device = some device ∧
    Flag.orElse e.cspmu false = true ∧ e.name = name

/-- What is asked for in the group of a unit are events of the unit. -/
theorem asks_cspmu_iff {device name : String} :
    c.Asks registry perApi pmuBits (.cspmu device) name ↔
      ∃ own, c.AsksUnit registry perApi pmuBits device own ∧ name = cspmuName device own := by
  constructor
  · rintro ⟨r, asked, event, brings, rfl⟩
    obtain ⟨e, counted, asks⟩ := List.mem_flatMap.mp asked
    have reached := brings.isFor
    -- Only a request for the unit itself is for its group.
    unfold Entry.requests at asks
    split at asks
    next device' on =>
      split at asks
      next unit =>
        rw [List.mem_singleton.mp asks] at brings reached
        cases reached
        cases brings
        exact ⟨e.name, ⟨e, counted, on, unit, rfl⟩, rfl⟩
      · rw [List.mem_singleton.mp asks] at reached
        cases reached
    next =>
      split at asks
      · split at asks
        · obtain ⟨node, _, rfl⟩ := List.mem_map.mp asks
          cases reached
        · rw [List.mem_singleton.mp asks] at reached
          cases reached
      · rw [List.mem_singleton.mp asks] at reached
        cases reached
  · rintro ⟨own, ⟨e, counted, on, unit, rfl⟩, rfl⟩
    refine ⟨(.cspmu device, { e.wanted (c.context registry perApi pmuBits) with
      name := device ++ "_" ++ e.name }), List.mem_flatMap.mpr ⟨e, counted, ?_⟩, _,
      .asked rfl, rfl⟩
    unfold Entry.requests
    rw [on]
    dsimp only
    rw [if_pos unit]
    exact List.mem_singleton_self _

/-- A reserved set has no events of coherent subsystem units. -/
theorem eventsFor_cspmu_of_set {events : List Event} (set : c.reserved? = some events)
    (device : String) :
    (c.plan registry perApi pmuBits).1.eventsFor (.cspmu device) = [] := by
  rcases c.plan_cases registry perApi pmuBits with ⟨_, _, made⟩ | ⟨unset, _⟩
  · rw [made]
    rfl
  · cases set.symm.trans unset

/-- The names of the events of a unit. -/
theorem mem_names_cspmu_iff {device name : String} :
    name ∈ ((c.plan registry perApi pmuBits).1.eventsFor (.cspmu device)).map (·.name) ↔
      c.reserved? = none ∧
        ∃ own, c.AsksUnit registry perApi pmuBits device own ∧ name = cspmuName device own := by
  cases set : c.reserved? with
  | some events =>
    rw [eventsFor_cspmu_of_set set]
    exact iff_of_false List.not_mem_nil nofun
  | none =>
    rw [mem_names_plan_iff set, asks_cspmu_iff]
    exact (and_iff_right rfl).symm

/-- Entries ask for events of two units one of which, with something behind its name, overlaps the
other. -/
def Collides (c : Config) (registry : Registry) (perApi : Bool) (pmuBits : Option Nat)
    (suffix : String) : Prop :=
  c.reserved? = none ∧ ∃ device name device' name',
    c.AsksUnit registry perApi pmuBits device name ∧
    c.AsksUnit registry perApi pmuBits device' name' ∧
    (Overlap device name device' (name' ++ suffix) ∨ Overlap device' (name' ++ suffix) device name)

/-- An event of a unit has the name of an event of another unit, with something behind it, exactly
if the entries collide. -/
theorem collides_iff {suffix : String} :
    (∃ device device', device ≠ device' ∧
      ∃ event ∈ (c.plan registry perApi pmuBits).1.eventsFor (.cspmu device),
      ∃ event' ∈ (c.plan registry perApi pmuBits).1.eventsFor (.cspmu device'),
        event.name = event'.name ++ suffix) ↔
    c.Collides registry perApi pmuBits suffix := by
  have longer (device name : String) :
      cspmuName device name ++ suffix = cspmuName device (name ++ suffix) := String.append_assoc ..
  constructor
  · rintro ⟨device, device', apart, event, listed, event', listed', same⟩
    obtain ⟨unset, name, asks, is⟩ := mem_names_cspmu_iff.mp (List.mem_map_of_mem listed)
    obtain ⟨_, name', asks', is'⟩ := mem_names_cspmu_iff.mp (List.mem_map_of_mem listed')
    rw [is, is', longer, cspmuName_eq_iff] at same
    refine ⟨unset, device, name, device', name', asks, asks', ?_⟩
    exact same.resolve_left fun both => apart both.1
  · rintro ⟨unset, device, name, device', name', asks, asks', overlap⟩
    obtain ⟨event, listed, is⟩ := List.mem_map.mp (mem_names_cspmu_iff.mpr ⟨unset, name, asks, rfl⟩)
    obtain ⟨event', listed', is'⟩ :=
      List.mem_map.mp (mem_names_cspmu_iff.mpr ⟨unset, name', asks', rfl⟩)
    refine ⟨device, device', ?_, event, listed, event', listed', ?_⟩
    · rcases overlap with overlap | overlap
      · exact overlap.ne
      · exact overlap.ne.symm
    · rw [is, is', longer, cspmuName_eq_iff]
      exact .inr overlap

end Config

end ScopeMeter

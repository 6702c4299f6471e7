import Mathlib.Data.List.Nodup
import ScopeMeter.Proofs.Plan.Requests

/-!
# Groups of events

Events are put behind a group one by one, and one whose name the group already has is left out.  So
the names of a group stay different, and what it holds is the first event of each name
(`firstOfEach_concat`).
-/

namespace ScopeMeter

/-- The events of a group have different names. -/
def DistinctNames (group : List Event) : Prop := (group.map (·.name)).Nodup

/-- The first event of each name. -/
def firstOfEach : List Event → List Event
  | [] => []
  | event :: events => event :: (firstOfEach events).filter (·.name ≠ event.name)

variable {group : List Event} {event : Event}

theorem addUnique_of_mem {e : Event} (member : e ∈ group) (named : e.name = event.name) :
    addUnique group event = group := by
  unfold addUnique
  rw [if_pos]
  exact List.any_eq_true.mpr ⟨e, member, by simpa using named⟩

theorem addUnique_of_fresh (fresh : ∀ e ∈ group, e.name ≠ event.name) :
    addUnique group event = group ++ [event] := by
  unfold addUnique
  rw [if_neg]
  intro taken
  obtain ⟨e, member, named⟩ := List.any_eq_true.mp taken
  exact fresh e member (by simpa using named)

/-- An event is put behind the group, or the group has one of its name and stays. -/
theorem addUnique_cases (group : List Event) (event : Event) :
    (∃ e ∈ group, e.name = event.name ∧ addUnique group event = group) ∨
    ((∀ e ∈ group, e.name ≠ event.name) ∧ addUnique group event = group ++ [event]) := by
  by_cases taken : ∃ e ∈ group, e.name = event.name
  · obtain ⟨e, member, named⟩ := taken
    exact .inl ⟨e, member, named, addUnique_of_mem member named⟩
  · have fresh : ∀ e ∈ group, e.name ≠ event.name :=
      fun e member named => taken ⟨e, member, named⟩
    exact .inr ⟨fresh, addUnique_of_fresh fresh⟩

theorem mem_addUnique {e : Event} (member : e ∈ addUnique group event) : e ∈ group ∨ e = event := by
  rcases addUnique_cases group event with ⟨_, _, _, kept⟩ | ⟨_, grown⟩
  · rw [kept] at member
    exact .inl member
  · rw [grown, List.mem_append, List.mem_singleton] at member
    exact member

theorem addUnique_ne_nil (group : List Event) (event : Event) : addUnique group event ≠ [] := by
  rcases addUnique_cases group event with ⟨e, member, _, kept⟩ | ⟨_, grown⟩
  · rw [kept]
    exact List.ne_nil_of_mem member
  · rw [grown]
    exact List.append_ne_nil_of_right_ne_nil _ (List.cons_ne_nil _ _)

/-- What stands in a group stays in front. -/
theorem addUnique_cons (first : Event) (group : List Event) (event : Event) :
    ∃ others, addUnique (first :: group) event = first :: others ∧ group ⊆ others := by
  rcases addUnique_cases (first :: group) event with ⟨_, _, _, kept⟩ | ⟨_, grown⟩
  · exact ⟨group, kept, List.Subset.refl _⟩
  · exact ⟨group ++ [event], grown, List.subset_append_left ..⟩

theorem DistinctNames.addUnique (distinct : DistinctNames group) (event : Event) :
    DistinctNames (addUnique group event) := by
  rcases addUnique_cases group event with ⟨_, _, _, kept⟩ | ⟨fresh, grown⟩
  · rwa [kept]
  · rw [grown, DistinctNames, List.map_append, List.map_singleton]
    apply List.Nodup.append distinct (List.nodup_singleton _)
    intro name old new
    obtain ⟨e, member, named⟩ := List.mem_map.mp old
    rw [List.mem_singleton.mp new] at named
    exact fresh e member named

/-- Putting an event behind the first events of each name keeps the first events of each name. -/
theorem firstOfEach_concat (events : List Event) (event : Event) :
    firstOfEach (events ++ [event]) = addUnique (firstOfEach events) event := by
  induction events with
  | nil => rfl
  | cons first events ih =>
    rw [List.cons_append, firstOfEach, firstOfEach, ih]
    by_cases same : first.name = event.name
    · rw [addUnique_of_mem List.mem_cons_self same]
      rcases addUnique_cases (firstOfEach events) event with ⟨_, _, _, kept⟩ | ⟨_, grown⟩
      · rw [kept]
      · rw [grown, List.filter_append]
        simp [same]
    · have other : event.name ≠ first.name := fun eq => same eq.symm
      rcases addUnique_cases (firstOfEach events) event with ⟨e, member, named, kept⟩ |
        ⟨fresh, grown⟩
      · have stays : e ∈ first :: (firstOfEach events).filter (·.name ≠ first.name) := by
          refine List.mem_cons_of_mem _ (List.mem_filter.mpr ⟨member, ?_⟩)
          simpa [named] using other
        rw [kept, addUnique_of_mem stays named]
      · have fresh : ∀ e ∈ first :: (firstOfEach events).filter (·.name ≠ first.name),
            e.name ≠ event.name := by
          intro e member
          rcases List.mem_cons.mp member with rfl | member
          · exact same
          · exact fresh e (List.mem_filter.mp member).1
        rw [grown, addUnique_of_fresh fresh, List.filter_append]
        simp [other]

namespace Draft

variable {d : Draft} {device : String}

/-! ## Which group a request changes -/

theorem plan_serve_device : (d.serve (.thread (some device), event)).plan =
    { d.plan with
      deviceEvents := d.plan.deviceEvents.update device [] (addUnique · event) } := rfl

theorem plan_serve_default : (d.serve (.thread none, event)).plan =
    { d.plan with
      deviceEvents :=
        (d.withLeader event.width).update defaultDevice [] (addUnique · event) } := rfl

/-- No request changes who is counted. -/
theorem settings_foldl_serve (d : Draft) (rs : List (Target × Event)) :
    (rs.foldl serve d).plan.allThread = d.plan.allThread ∧
      (rs.foldl serve d).plan.inherited = d.plan.inherited := by
  induction rs generalizing d with
  | nil => exact ⟨rfl, rfl⟩
  | cons r rs ih =>
    have rest := ih (d.serve r)
    obtain ⟨target, event⟩ := r
    cases target with
    | thread key => cases key <;> exact rest
    | interconnect => exact rest
    | cspmu key => exact rest

/-- Before the first event of the default group that has no device of its own comes the leader. -/
theorem get?_withLeader (d : Draft) (width : Width) (key : String) :
    (d.withLeader width).get? key =
      if d.leaderPlaced = false ∧ key = defaultDevice then
        some ((d.plan.deviceEvents.get? key).getD [] ++ [cycleLeader width d.plan.inherited])
      else d.plan.deviceEvents.get? key := by
  unfold withLeader
  cases placed : d.leaderPlaced with
  | true => rw [if_pos rfl, if_neg (by simp)]
  | false =>
    rw [if_neg (by simp), Keyed.get?_update]
    by_cases same : key = defaultDevice
    · subst same
      simp
    · rw [if_neg (fun eq => same eq.symm), if_neg (fun both => same both.2)]

end Draft

end ScopeMeter

import ScopeMeter.Proofs.Host.Counters

/-!
# Which groups are counting

`Host.Running` says of which leaders the counters are switched on.  Only two control calls change
that, each for its own group: the one that starts it and the one that stops it.  A stop that the
kernel refuses leaves its group counting; `Host.failedStops` counts those.
-/

namespace ScopeMeter

/-- Whether the kernel has refused to stop a group. -/
def CallRecord.isFailedStop : CallRecord → Bool
  | controlled .disable _ (some _) => true
  | _ => false

namespace Host

/-- The counters of these leaders are switched on, and no others. -/
def Running (h : Host) (on : Nat → Prop) : Prop :=
  ∀ c ∈ h.counters, c.enabled = true ↔ on c.leader

/-- How many stops the kernel has refused. -/
def failedStops (h : Host) : Nat := h.trace.countP CallRecord.isFailedStop

variable {h h' : Host} {leader : Nat} {on on' : Nat → Prop}

theorem failedStops_mono (recorded : h.trace <+: h'.trace) : h.failedStops ≤ h'.failedStops :=
  recorded.sublist.countP_le

theorem Running.congr (running : h.Running on) (same : ∀ leader, on leader ↔ on' leader) :
    h.Running on' :=
  fun c member => (running c member).trans (same c.leader)

theorem Running.of_counters (running : h.Running on) (counters : h'.counters = h.counters) :
    h'.Running on := by
  intro c member
  rw [counters] at member
  exact running c member

theorem Running.of_unchanged (running : h.Running on) (unchanged : Unchanged h h') :
    h'.Running on :=
  running.of_counters unchanged.counters

theorem Running.of_eq_nil (none : h.counters = []) : h.Running on := by
  intro c member
  rw [none] at member
  cases member

theorem Running.tick (running : h.Running on) (tid : Int32) (type : Option UInt32)
    (amounts : List UInt64) : (h.tick tid type amounts).Running on := by
  have switches := h.map_tick (g := fun c => (c.leader, c.enabled)) (fun _ _ => rfl) tid type
    amounts
  intro c member
  have listed : (c.leader, c.enabled) ∈ h.counters.map fun c => (c.leader, c.enabled) := by
    rw [← switches]
    exact List.mem_map_of_mem member
  obtain ⟨d, old, same⟩ := List.mem_map.mp listed
  rw [Prod.mk.injEq] at same
  rw [← same.1, ← same.2]
  exact running d old

theorem Running.meet (running : h.Running on) (s : Stimulus) : (h.meet s).Running on := by
  cases s with
  | tick tid type amounts => exact running.tick tid type amounts
  | clock samples => exact running
  | fault rule => exact running

/-! ## Control calls -/

theorem Running.updateGroup (running : h.Running on) {f : LiveCounter → LiveCounter}
    (keeps : ∀ c, (f c).leader = c.leader)
    (inside : ∀ c, (on c.leader ↔ c.enabled = true) → c.leader = leader →
      ((f c).enabled = true ↔ on' leader))
    (outside : ∀ other, other ≠ leader → (on other ↔ on' other)) :
    (h.updateGroup leader f).Running on' := by
  intro c member
  obtain ⟨d, old, rfl⟩ := List.mem_map.mp member
  split
  next same =>
    rw [keeps, same]
    exact inside d (running d old).symm same
  next other => exact (running d old).trans (outside d.leader other)

/-- Zeroing a group, whether it succeeds or not, switches nothing. -/
theorem Running.reset (running : h.Running on) (leader : Nat) :
    (h.control .reset leader).2.Running on := by
  rcases h.control_cases .reset leader with ⟨_, _, unchanged⟩ | ⟨_, unchanged⟩
  · exact running.of_unchanged unchanged
  · refine Running.of_unchanged ?_ unchanged
    refine running.updateGroup (fun _ => rfl) ?_ fun _ _ => Iff.rfl
    intro c enabled same
    rw [← same]
    exact enabled.symm

theorem Running.enable (running : h.Running on) (leader : Nat)
    (ok : (h.control .enable leader).1 = .ok ()) :
    (h.control .enable leader).2.Running fun other => on other ∨ other = leader := by
  rcases h.control_cases .enable leader with ⟨_, failed, _⟩ | ⟨_, unchanged⟩
  · cases failed.symm.trans ok
  · refine Running.of_unchanged ?_ unchanged
    refine running.updateGroup (fun _ => rfl) ?_ ?_
    · exact fun _ _ _ => iff_of_true rfl (.inr rfl)
    · exact fun other apart => ⟨.inl, fun either => either.resolve_right apart⟩

theorem Running.enable_error (running : h.Running on) (leader : Nat) {fault : CallFault}
    (failed : (h.control .enable leader).1 = .error fault) :
    (h.control .enable leader).2.Running on := by
  rcases h.control_cases .enable leader with ⟨_, _, unchanged⟩ | ⟨ok, _⟩
  · exact running.of_unchanged unchanged
  · cases failed.symm.trans ok

theorem Running.disable_ok (running : h.Running on) (ok : (h.control .disable leader).1 = .ok ()) :
    (h.control .disable leader).2.Running fun other => on other ∧ other ≠ leader := by
  rcases h.control_cases .disable leader with ⟨_, failed, _⟩ | ⟨_, unchanged⟩
  · cases failed.symm.trans ok
  · refine Running.of_unchanged ?_ unchanged
    refine running.updateGroup (fun _ => rfl) ?_ ?_
    · exact fun _ _ _ => iff_of_false nofun fun both => both.2 rfl
    · exact fun other apart => ⟨fun is => ⟨is, apart⟩, fun both => both.1⟩

end Host

end ScopeMeter

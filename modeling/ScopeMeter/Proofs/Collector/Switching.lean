import ScopeMeter.Proofs.Collector.Sweep
import ScopeMeter.Proofs.Host.Calls

/-!
# Switching bindings on and off

What starting, stopping, collecting and closing the bindings of a collector does to the groups
that the kernel counts.  A start that fails stops again those that it has started, and a stop ends
them all, unless the kernel refuses one.
-/

namespace ScopeMeter

/-! ## Switching groups -/

namespace Group

variable {g : Group} {h : Host} {on : Nat → Prop}

/-- Starting a group switches it on, or fails and switches nothing. -/
theorem running_start (g : Group) (running : h.Running on) :
    ((g.start h).1 = .ok () ∧
      (g.start h).2.Running fun leader => on leader ∨ g.leader? = some leader) ∨
    (∃ e, (g.start h).1 = .error e ∧ (g.start h).2.Running on) := by
  unfold start
  cases opened : g.leader? with
  | none => exact .inr ⟨_, rfl, running⟩
  | some leader =>
    dsimp only [controlAll]
    have zeroed := running.reset leader
    rcases reset : h.control .reset leader with ⟨result, h'⟩
    rw [reset] at zeroed
    cases result with
    | error fault => exact .inr ⟨_, rfl, zeroed⟩
    | ok _ =>
      dsimp only at zeroed ⊢
      have starts := zeroed.enable leader
      have fails : ∀ fault, (h'.control .enable leader).1 = .error fault →
          (h'.control .enable leader).2.Running on := fun _ => zeroed.enable_error leader
      rcases enable : h'.control .enable leader with ⟨result, h''⟩
      rw [enable] at starts fails
      cases result with
      | error fault => exact .inr ⟨_, rfl, fails fault rfl⟩
      | ok _ =>
        refine .inl ⟨rfl, (starts rfl).congr ?_⟩
        intro other
        rw [Option.some.injEq, eq_comm (a := other)]

/-- A group that the kernel does not refuse to stop is switched off. -/
theorem running_stop (g : Group) (running : h.Running on)
    (stops : (g.stop h).2.failedStops ≤ h.failedStops) :
    (g.stop h).2.Running fun leader => on leader ∧ g.leader? ≠ some leader := by
  unfold stop at stops ⊢
  cases opened : g.leader? with
  | none => exact running.congr fun _ => ⟨fun is => ⟨is, nofun⟩, And.left⟩
  | some leader =>
    simp only [opened, controlAll] at stops ⊢
    have switched := running.disable leader
    rcases disable : h.control .disable leader with ⟨result, h'⟩
    rw [disable] at switched stops
    have same : ∀ other, on other ∧ other ≠ leader ↔ on other ∧ some leader ≠ some other := by
      intro other
      rw [ne_eq, ne_eq, Option.some.injEq, eq_comm (a := other)]
    cases result with
    | error fault => exact (switched stops).congr same
    | ok _ => exact (switched stops).congr same

theorem running_collect (g : Group) (now : Int64) (running : h.Running on) :
    (g.collect now h).host.Running on := by
  rcases g.collect_cases now h with ⟨_, _, _, _, unchanged⟩ |
    ⟨_, leader, _, _, _, ⟨_, _, host⟩ | ⟨_, _, unchanged⟩⟩
  · exact running.of_unchanged unchanged
  · rw [host]
    exact (running.of_unchanged (g.unchanged_read h)).reset leader
  · exact running.of_unchanged unchanged

end Group

namespace Collector

variable {on : Nat → Prop} {h : Host}

/-- A sweep of an operation that switches nothing switches nothing. -/
theorem running_sweep {op : Binding → Host → Outcome Binding (Except Error Unit)}
    (keeps : ∀ b h, h.Running on → (op b h).host.Running on)
    (notice : Binding → Error → Notice) (bs : List Binding) (running : h.Running on) :
    (sweep op notice bs h).host.Running on := by
  induction bs generalizing h with
  | nil => exact running
  | cons b bs ih =>
    rw [sweep_cons]
    exact ih ((keeps b h running).of_unchanged (unchanged_stepHost b h))

/-- Stopping all bindings switches their groups off, when the kernel refuses none. -/
theorem running_sweep_stop (notice : Binding → Error → Notice) (bs : List Binding)
    (running : h.Running on)
    (stops : (sweep Binding.stop notice bs h).host.failedStops ≤ h.failedStops) :
    (sweep Binding.stop notice bs h).host.Running fun leader =>
      on leader ∧ some leader ∉ bs.map (·.group.leader?) := by
  induction bs generalizing h on with
  | nil => exact running.congr fun _ => ⟨fun is => ⟨is, List.not_mem_nil⟩, And.left⟩
  | cons b bs ih =>
    rw [sweep_cons] at stops ⊢
    dsimp only at stops ⊢
    -- The refusals only grow in number, so there are none at this binding and none behind it.
    have unchanged : (b.stop h).host.Unchanged (stepHost Binding.stop notice b h) :=
      unchanged_stepHost b h
    have noted := Host.failedStops_mono unchanged.recorded
    have stopped := Host.failedStops_mono (b.sameCounters_stop h).recorded
    have behind := Host.failedStops_mono
      (isLocal_stop.sameCounters_sweep notice bs (stepHost Binding.stop notice b h)).recorded
    have switched := b.group.running_stop running (Nat.le_trans noted (Nat.le_trans behind stops))
    have rest := ih (switched.of_unchanged unchanged)
      (Nat.le_trans stops (Nat.le_trans stopped noted))
    apply rest.congr
    intro leader
    rw [List.map_cons, List.mem_cons, not_or, and_assoc, ne_comm (b := some leader)]

/-- Starting all bindings switches their groups on; when one fails, none is left on, provided that
the kernel refuses no stop. -/
theorem running_startAll (started bs : List Binding)
    (running : h.Running fun leader => some leader ∈ started.map (·.group.leader?))
    (stops : (startAll started bs h).host.failedStops ≤ h.failedStops) :
    ((startAll started bs h).result = true →
      (startAll started bs h).host.Running fun leader =>
        some leader ∈ (started ++ bs).map (·.group.leader?)) ∧
    ((startAll started bs h).result = false →
      (startAll started bs h).host.Running fun _ => False) := by
  induction bs generalizing started h with
  | nil =>
    rw [List.append_nil]
    exact ⟨fun _ => running, fun refused => absurd refused.symm Bool.false_ne_true⟩
  | cons b bs ih =>
    have recorded : h.trace <+: (b.start h).2.trace := (b.group.sameCounters_start h).recorded
    have step : ((b.start h).1 = .ok () ∧ (b.start h).2.Running fun leader =>
          some leader ∈ started.map (·.group.leader?) ∨ b.group.leader? = some leader) ∨
        (∃ e, (b.start h).1 = .error e ∧ (b.start h).2.Running fun leader =>
          some leader ∈ started.map (·.group.leader?)) :=
      b.group.running_start running
    unfold startAll at stops ⊢
    rcases eq : b.start h with ⟨result, h'⟩
    rw [eq] at step recorded
    have later := Host.failedStops_mono recorded
    rcases step with ⟨ok, switched⟩ | ⟨e, failed, still⟩
    · cases ok
      simp only [eq] at stops ⊢
      have rest := ih (started ++ [b]) (h := h') ?_ (Nat.le_trans stops later)
      · rwa [List.append_assoc, List.singleton_append] at rest
      · apply switched.congr
        intro leader
        rw [List.map_append, List.mem_append, List.map_singleton, List.mem_singleton,
          eq_comm (b := some leader)]
    · cases failed
      simp only [eq] at stops ⊢
      have unchanged := h'.unchanged_note (.startFailed b.name e)
      have noted := Host.failedStops_mono unchanged.recorded
      have undone := running_sweep_stop (fun b e => .stopFailed b.name e) started
        (still.of_unchanged unchanged) (Nat.le_trans stops (Nat.le_trans later noted))
      refine ⟨fun done => absurd done Bool.false_ne_true, fun _ => undone.congr ?_⟩
      exact fun leader => ⟨fun both => both.2 both.1, False.elim⟩

/-- Closing the groups of bindings closes their counters and no others. -/
theorem counters_closeBindings (bs : List Binding) (h : Host) :
    (closeBindings bs h).counters =
      h.counters.filter fun c => c.handle ∉ bs.flatMap (·.group.handles) := by
  induction bs generalizing h with
  | nil => exact (List.filter_eq_self.mpr fun _ _ => by simp).symm
  | cons b bs ih =>
    have first : closeBindings (b :: bs) h = closeBindings bs (h.closeAll b.group.handles) := rfl
    rw [first, ih, Host.closeAll, List.filter_filter]
    apply List.filter_congr
    intro c _
    simp [Bool.and_comm]

theorem trace_closeBindings (bs : List Binding) (h : Host) :
    (closeBindings bs h).trace = h.trace := by
  induction bs generalizing h with
  | nil => rfl
  | cons b bs ih => exact ih _

end Collector

end ScopeMeter

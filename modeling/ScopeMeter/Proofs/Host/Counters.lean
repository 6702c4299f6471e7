import ScopeMeter.Host.Stimulus

/-!
# What calls do to the live counters

A control call that fails, a read, a note and a clock sample leave the live counters as they are
(`Host.Unchanged`).  A control call that succeeds, and the time that passes, change what counters
have counted and whether they count, but not which counters there are (`Host.SameCounters`).  The
records of calls only grow.
`Host.Sound` is what holds of the handles of every machine: they are handed out in ascending
order, and the leader of a counter is not younger than the counter.
-/

namespace ScopeMeter

/-- What happens to a machine from outside: counters advance, the clock goes on, and a fault is
planned. -/
inductive Stimulus
  | tick (tid : Int32) (type : Option UInt32) (amounts : List UInt64)
  | clock (samples : List ClockSample)
  | fault (rule : FaultRule)
  deriving DecidableEq

/-- A counter apart from what it has counted and whether it counts. -/
def LiveCounter.identity (c : LiveCounter) : LiveCounter := { c with value := 0, enabled := false }

@[simp] theorem LiveCounter.identity_handle (c : LiveCounter) : c.identity.handle = c.handle := rfl

@[simp] theorem LiveCounter.identity_leader (c : LiveCounter) : c.identity.leader = c.leader := rfl

namespace Host

/-- The live counters apart from what they have counted and whether they count. -/
def identities (h : Host) : List LiveCounter := h.counters.map LiveCounter.identity

/-- No counter has changed between two moments of a machine. -/
structure Unchanged (h h' : Host) : Prop where
  counters : h'.counters = h.counters
  nextHandle : h'.nextHandle = h.nextHandle
  recorded : h.trace <+: h'.trace

/-- No counter was opened or closed between two moments of a machine. -/
structure SameCounters (h h' : Host) : Prop where
  identities : h'.identities = h.identities
  nextHandle : h'.nextHandle = h.nextHandle
  recorded : h.trace <+: h'.trace

theorem Unchanged.refl (h : Host) : Unchanged h h := ⟨rfl, rfl, List.prefix_rfl⟩

theorem Unchanged.trans {h₁ h₂ h₃ : Host} (first : Unchanged h₁ h₂) (second : Unchanged h₂ h₃) :
    Unchanged h₁ h₃ :=
  ⟨second.counters.trans first.counters, second.nextHandle.trans first.nextHandle,
    first.recorded.trans second.recorded⟩

theorem Unchanged.same {h h' : Host} (unchanged : Unchanged h h') : SameCounters h h' :=
  ⟨congrArg (List.map LiveCounter.identity) unchanged.counters, unchanged.nextHandle,
    unchanged.recorded⟩

theorem SameCounters.refl (h : Host) : SameCounters h h := ⟨rfl, rfl, List.prefix_rfl⟩

theorem SameCounters.trans {h₁ h₂ h₃ : Host} (first : SameCounters h₁ h₂)
    (second : SameCounters h₂ h₃) : SameCounters h₁ h₃ :=
  ⟨second.identities.trans first.identities, second.nextHandle.trans first.nextHandle,
    first.recorded.trans second.recorded⟩

/-! ## Calls that leave the counters alone -/

theorem unchanged_note (h : Host) (n : Notice) : Unchanged h (h.note n) :=
  ⟨rfl, rfl, List.prefix_rfl⟩

theorem unchanged_noteAll (h : Host) (ns : List Notice) : Unchanged h (h.noteAll ns) :=
  ⟨rfl, rfl, List.prefix_rfl⟩

theorem unchanged_record (h : Host) (r : CallRecord) : Unchanged h (h.record r) :=
  ⟨rfl, rfl, List.prefix_append ..⟩

theorem unchanged_of_fire {h h' : Host} {call : CallKind} {subject : Subject}
    {effect : Option FaultEffect} (met : h.fire call subject = (effect, h')) : Unchanged h h' := by
  cases met
  exact ⟨rfl, rfl, List.prefix_rfl⟩

theorem unchanged_sampleClock (h : Host) : Unchanged h h.sampleClock.2 := by
  unfold sampleClock
  split <;> exact ⟨rfl, rfl, List.prefix_rfl⟩

/-- A read changes no counter, whether it fails or not. -/
theorem unchanged_readRaw (h : Host) (leader : Nat) : Unchanged h (h.readRaw leader).2 := by
  unfold readRaw
  rcases met : h.fire .reading (h.subjectOf leader) with ⟨effect, h'⟩
  have same := unchanged_of_fire met
  simp only
  split
  · exact same.trans (unchanged_record ..)
  -- What a planned fault cuts and claims does not matter, nor whether the answer fits.
  · split <;> split <;> exact same.trans (unchanged_record ..)

theorem unchanged_readGroup (h : Host) (leader room : Nat) :
    Unchanged h (h.readGroup leader room).2 := by
  have raw := h.unchanged_readRaw leader
  unfold readGroup
  split <;> simp_all

/-! ## Control calls -/

theorem applyControl_identity (control : Control) (c : LiveCounter) :
    (applyControl control c).identity = c.identity := by
  cases control <;> rfl

/-- A change of counters that keeps the identity of each opens and closes none. -/
theorem sameCounters_updateGroup {f : LiveCounter → LiveCounter}
    (keeps : ∀ c, (f c).identity = c.identity) (h : Host) (leader : Nat) :
    SameCounters h (h.updateGroup leader f) := by
  refine ⟨?_, rfl, List.prefix_rfl⟩
  simp only [identities, updateGroup, List.map_map]
  apply List.map_congr_left
  intro c _
  simp only [Function.comp]
  split
  · exact keeps c
  · rfl

/-- A control call fails and changes no counter, or succeeds and applies to its whole group. -/
theorem control_cases (h : Host) (control : Control) (leader : Nat) :
    (∃ number, (h.control control leader).1 = .error (.controlFailed control leader number) ∧
      Unchanged h (h.control control leader).2) ∨
    ((h.control control leader).1 = .ok () ∧
      Unchanged (h.updateGroup leader (applyControl control)) (h.control control leader).2) := by
  unfold Host.control
  rcases met : h.fire (.control control) (h.subjectOf leader) with ⟨effect, h'⟩
  have same := unchanged_of_fire met
  split
  case h_1 number h'' shape =>
    cases shape
    exact .inl ⟨number, rfl, same.trans (unchanged_record ..)⟩
  case h_2 effect' h'' _ shape =>
    cases shape
    refine .inr ⟨rfl, ?_, same.nextHandle, same.recorded.trans (List.prefix_append ..)⟩
    simp only [record, updateGroup, same.counters]

theorem sameCounters_control (h : Host) (control : Control) (leader : Nat) :
    SameCounters h (h.control control leader).2 := by
  rcases h.control_cases control leader with ⟨_, _, unchanged⟩ | ⟨_, unchanged⟩
  · exact unchanged.same
  · exact (sameCounters_updateGroup (applyControl_identity control) h leader).trans unchanged.same

/-! ## Passing time -/

/-- What does not look at values stays as it is while counters are fed. -/
theorem map_feed {α : Type} {g : LiveCounter → α}
    (blind : ∀ (c : LiveCounter) v, g { c with value := v } = g c) (f : UInt64 → UInt64 → UInt64)
    (leader : Nat) (cs : List LiveCounter) (vs : List UInt64) :
    (feed f leader cs vs).map g = cs.map g := by
  induction cs generalizing vs with
  | nil => simp [feed]
  | cons c cs ih =>
    cases vs with
    | nil => rfl
    | cons v vs =>
      unfold feed
      split
      · simp only [List.map_cons, ih, blind]
      · simp only [List.map_cons, ih]

theorem map_tick {α : Type} {g : LiveCounter → α}
    (blind : ∀ (c : LiveCounter) v, g { c with value := v } = g c) (h : Host) (tid : Int32)
    (type : Option UInt32) (amounts : List UInt64) :
    (h.tick tid type amounts).counters.map g = h.counters.map g := by
  unfold tick
  -- The fold feeds one leader after the other; the list of counters fed so far is general.
  generalize (h.leadersOf tid type).filter (·.enabled) = leaders
  generalize h.counters = cs
  induction leaders generalizing cs with
  | nil => rfl
  | cons leader leaders ih => exact (ih _).trans (map_feed blind ..)

theorem sameCounters_tick (h : Host) (tid : Int32) (type : Option UInt32)
    (amounts : List UInt64) : SameCounters h (h.tick tid type amounts) :=
  ⟨h.map_tick (fun _ _ => rfl) tid type amounts, rfl, List.prefix_rfl⟩

/-- What a machine becomes from outside. -/
def meet (h : Host) : Stimulus → Host
  | .tick tid type amounts => h.tick tid type amounts
  | .clock samples => h.addClock samples
  | .fault rule => h.addFault rule

theorem sameCounters_meet (h : Host) (s : Stimulus) : SameCounters h (h.meet s) := by
  cases s with
  | tick tid type amounts => exact h.sameCounters_tick tid type amounts
  | clock samples => exact ⟨rfl, rfl, List.prefix_rfl⟩
  | fault rule => exact ⟨rfl, rfl, List.prefix_rfl⟩

/-! ## Sound machines -/

/-- Handles are handed out in ascending order and never again, and the leader of a counter is not
younger than the counter. -/
structure Sound (h : Host) : Prop where
  ascending : h.counters.Pairwise fun a b => a.handle < b.handle
  handle_lt : ∀ c ∈ h.counters, c.handle < h.nextHandle
  leader_le : ∀ c ∈ h.counters, c.leader ≤ c.handle

/-- A machine on which nothing was opened yet. -/
theorem Sound.of_counters_eq_nil {h : Host} (none : h.counters = []) : h.Sound := by
  constructor <;> simp [none]

/-- Soundness is about the identities of the counters only. -/
theorem Sound.of_same {h h' : Host} (sound : h.Sound) (same : SameCounters h h') : h'.Sound := by
  have mem : ∀ c ∈ h'.counters, ∃ d ∈ h.counters, d.identity = c.identity := by
    intro c hc
    have member : c.identity ∈ h.identities := by
      rw [← same.identities]
      exact List.mem_map_of_mem hc
    exact List.mem_map.1 member
  have pairs : h'.identities.Pairwise fun a b => a.handle < b.handle := by
    rw [same.identities, identities, List.pairwise_map]
    exact sound.ascending
  rw [identities, List.pairwise_map] at pairs
  refine ⟨pairs, ?_, ?_⟩
  · intro c hc
    obtain ⟨d, hd, eq⟩ := mem c hc
    have handle : d.identity.handle = c.identity.handle := congrArg LiveCounter.handle eq
    rw [same.nextHandle, ← c.identity_handle, ← handle]
    exact sound.handle_lt d hd
  · intro c hc
    obtain ⟨d, hd, eq⟩ := mem c hc
    have handle : d.identity.handle = c.identity.handle := congrArg LiveCounter.handle eq
    have leader : d.identity.leader = c.identity.leader := congrArg LiveCounter.leader eq
    rw [← c.identity_handle, ← c.identity_leader, ← handle, ← leader]
    exact sound.leader_le d hd

theorem Sound.closeAll {h : Host} (sound : h.Sound) (handles : List Nat) :
    (h.closeAll handles).Sound := by
  refine ⟨sound.ascending.sublist List.filter_sublist, ?_, ?_⟩
  · intro c hc
    exact sound.handle_lt c (List.mem_filter.1 hc).1
  · intro c hc
    exact sound.leader_le c (List.mem_filter.1 hc).1

end Host

end ScopeMeter

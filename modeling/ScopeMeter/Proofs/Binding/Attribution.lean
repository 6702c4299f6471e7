import ScopeMeter.Proofs.Binding.Run

/-!
# What is attributed to a scope

Between the start of a scope and its stop rounds may be collected, and each of them zeroes the
counters; reads may fail, and so may the zeroing.  The sum of the scope grows all the same by
exactly what the counters advanced by (`sum_scopeStop`).  The invariant is `ScopeOpen`: each
counter stands at the start snapshot, moved along by every zeroing, plus what ticks have added
since the start.
-/

namespace ScopeMeter

namespace Rig

/-- Whether the next read of the group fails or returns the whole group. -/
def readsWhole (r : Rig) : Bool := r.binding.group.readsWhole r.host

/-- Whether an act may come between the start and the stop of a scope: the binding is neither
started nor stopped, a collection that can read reads the whole group, and scope calls fail. -/
def withinScope (r : Rig) : Act → Bool
  | .start | .stop => false
  | .collect _ => r.readsWhole
  | .scopeStart id mask => !r.succeeds (.scopeStart id mask)
  | .scopeStop id mask isOwn => !r.succeeds (.scopeStop id mask isOwn)
  | .summarize | .clear | .outside _ => true

/-- What an act adds to the counter at a position. -/
def gain (r : Rig) (index : Nat) : Act → UInt64
  | .outside (.tick tid type amounts) => r.binding.group.share r.host tid type amounts index
  | _ => 0

/-- What ticks add to the counter at a position in the course of a run. -/
def ticked (index : Nat) : Rig → List Act → UInt64
  | _, [] => 0
  | r, a :: acts => r.gain index a + (r.next a).ticked index acts

/-- A scope is open since ticks have added `advanced` to the counters. -/
structure ScopeOpen (r : Rig) (leader size : Nat) (id : UInt16) (advanced : Nat → UInt64) :
    Prop where
  opened : r.Opened leader size
  scope : r.binding.group.scope.opened = some id
  fromGroup : r.binding.group.scope.fromGroup = true
  covers : r.binding.group.scope.start.size = size
  gap : ∀ i < size, (r.host.count leader i).toInt64 =
    r.binding.group.scope.start.value i + (advanced i).toInt64

variable {r : Rig} {leader size : Nat} {id : UInt16} {advanced : Nat → UInt64}

/-- A step that changes neither the group nor a counter keeps the scope as it is. -/
theorem ScopeOpen.of_unchanged {r' : Rig} (isOpen : r.ScopeOpen leader size id advanced)
    (opened : r'.Opened leader size) (group : r'.binding.group = r.binding.group)
    (unchanged : r.host.Unchanged r'.host) : r'.ScopeOpen leader size id advanced := by
  refine ⟨opened, ?_, ?_, ?_, ?_⟩
  · rw [group, isOpen.scope]
  · rw [group, isOpen.fromGroup]
  · rw [group, isOpen.covers]
  · intro i hi
    rw [unchanged.count, group, isOpen.gap i hi]

/-- A successful start opens the scope with the counts of the moment. -/
theorem scopeOpen_scopeStart (opened : r.Opened leader size) {mask : ScopeMask}
    (ok : r.answer (.scopeStart id mask) = .ok ()) (whole : r.readsWhole) :
    (r.next (.scopeStart id mask)).ScopeOpen leader size id fun _ => 0 := by
  have after := opened.next (.scopeStart id mask)
  obtain ⟨unchanged, cases⟩ := r.binding.scopeStart_cases id mask r.host
  rcases cases with ⟨e, failed, _⟩ | ⟨snap, _, read, _, next⟩
  · cases failed.symm.trans ok
  · have group : (r.next (.scopeStart id mask)).binding.group =
        { r.binding.group with scope := r.binding.group.scope.record id false snap true } :=
      congrArg Binding.group next
    refine ⟨after, ?_, ?_, ?_, ?_⟩
    · rw [group]
      rfl
    · rw [group]
      rfl
    · rw [group]
      exact (Group.size_of_read read opened.holds.size_le).trans opened.size_eq
    · intro i hi
      rw [group]
      have member : i < r.binding.group.size := by rwa [opened.size_eq]
      have value := Group.value_of_read opened.holds whole read member
      exact ((congrArg UInt64.toInt64 (unchanged.count ..)).trans value.symm).trans
        (Int64.add_zero _).symm

/-- A collection keeps the scope open: when it zeroes the counters, the start snapshot moves back
by what was read. -/
theorem ScopeOpen.collect (isOpen : r.ScopeOpen leader size id advanced) (now : Int64)
    (whole : r.readsWhole) : (r.next (.collect now)).ScopeOpen leader size id advanced := by
  have after := isOpen.opened.next (.collect now)
  obtain ⟨_, unchanged, clocks, next⟩ := r.binding.collect_eq now r.host
  have group : (r.next (.collect now)).binding.group =
      (r.binding.group.collect now r.host).next := congrArg Binding.group next
  rcases r.binding.group.collect_cases now r.host with ⟨_, _, _, same, still⟩ |
    ⟨snap, leader', read, leads, _, ⟨zeroed, moved, host⟩ | ⟨_, same, still⟩⟩
  · exact isOpen.of_unchanged after (group.trans same) (still.trans unchanged)
  · cases isOpen.opened.holds.opened.symm.trans leads
    have scope : (r.next (.collect now)).binding.group.scope =
        { r.binding.group.scope with start := r.binding.group.scope.start.rebased snap } := by
      rw [group, moved]
      simp only [Tracker.rebase, isOpen.scope, isOpen.fromGroup, Option.isSome_some, Bool.and_self,
        if_true]
    refine ⟨after, ?_, ?_, ?_, ?_⟩
    · rw [scope, isOpen.scope]
    · rw [scope, isOpen.fromGroup]
    · rw [scope, Snapshot.size_rebased, isOpen.covers]
    · intro i hi
      have count : (r.next (.collect now)).host.count leader i = 0 :=
        (unchanged.count ..).trans (by rw [host]; exact Host.count_reset zeroed i)
      have member : i < r.binding.group.size := by rwa [isOpen.opened.size_eq]
      have value : snap.value i = (r.host.count leader i).toInt64 :=
        Group.value_of_read isOpen.opened.holds whole read member
      have gap := isOpen.gap i hi
      rw [count, scope, Snapshot.value_rebased _ _ _ (by rwa [isOpen.covers]), value, gap,
        toInt64_zero]
      grind
  · exact isOpen.of_unchanged after (group.trans same) (still.trans unchanged)

/-- Each act within a scope keeps the scope open and accounts for what it adds to the counters. -/
theorem ScopeOpen.next (isOpen : r.ScopeOpen leader size id advanced) {a : Act}
    (within : r.withinScope a) :
    (r.next a).ScopeOpen leader size id fun i => advanced i + r.gain i a := by
  have after := isOpen.opened.next a
  -- Only ticks add to the counters; every other act leaves what was added so far.
  have still : (r.next a).ScopeOpen leader size id advanced → (∀ i, r.gain i a = 0) →
      (r.next a).ScopeOpen leader size id fun i => advanced i + r.gain i a := by
    intro kept none
    simpa only [none, UInt64.add_zero] using kept
  cases a with
  | start => cases within
  | stop => cases within
  | collect now => exact still (isOpen.collect now within) fun _ => rfl
  | scopeStart id' mask =>
    obtain ⟨unchanged, cases⟩ := r.binding.scopeStart_cases id' mask r.host
    rcases cases with ⟨_, _, next⟩ | ⟨_, _, _, ok, _⟩
    · exact still (isOpen.of_unchanged after (congrArg Binding.group next) unchanged) fun _ => rfl
    · simp [withinScope, succeeds, answer, perform, ok, Except.isOk, Except.toBool] at within
  | scopeStop id' mask isOwn =>
    obtain ⟨unchanged, cases⟩ := r.binding.scopeStop_cases id' mask isOwn r.host
    rcases cases with ⟨_, _, next⟩ | ⟨_, _, _, _, ok, _⟩
    · exact still (isOpen.of_unchanged after (congrArg Binding.group next) unchanged) fun _ => rfl
    · simp [withinScope, succeeds, answer, perform, ok, Except.isOk, Except.toBool] at within
  | summarize => exact still (isOpen.of_unchanged after rfl (.refl _)) fun _ => rfl
  | clear => exact still (isOpen.of_unchanged after rfl (.refl _)) fun _ => rfl
  | outside stimulus =>
    cases stimulus with
    | clock samples =>
      exact still (isOpen.of_unchanged after rfl ⟨rfl, rfl, List.prefix_rfl⟩) fun _ => rfl
    | fault rule =>
      exact still (isOpen.of_unchanged after rfl ⟨rfl, rfl, List.prefix_rfl⟩) fun _ => rfl
    | tick tid type amounts =>
      refine ⟨after, isOpen.scope, isOpen.fromGroup, isOpen.covers, ?_⟩
      intro i hi
      have member : i < r.binding.group.size := by rwa [isOpen.opened.size_eq]
      have count : (r.next (.outside (.tick tid type amounts))).host.count leader i =
          r.host.count leader i + r.gain i (.outside (.tick tid type amounts)) :=
        isOpen.opened.holds.count_tick isOpen.opened.sound member tid type amounts
      have start : (r.next (.outside (.tick tid type amounts))).binding.group.scope.start =
          r.binding.group.scope.start := rfl
      rw [count, start, UInt64.toInt64_add, isOpen.gap i hi, UInt64.toInt64_add, Int64.add_assoc]

theorem ScopeOpen.run (isOpen : r.ScopeOpen leader size id advanced) {acts : List Act}
    (within : r.Along (fun r a => r.withinScope a) acts) :
    (r.run acts).ScopeOpen leader size id fun i => advanced i + r.ticked i acts := by
  induction acts generalizing r advanced with
  | nil => simpa only [run_nil, ticked, UInt64.add_zero] using isOpen
  | cons a acts ih =>
    have rest := ih (isOpen.next within.1) within.2
    simpa only [run_cons, ticked, UInt64.add_assoc] using rest

/-- A successful stop adds to the sum of each counter what the counter stands above the start
snapshot. -/
theorem ScopeOpen.sum_next (isOpen : r.ScopeOpen leader size id advanced) {mask : ScopeMask}
    {isOwn : Bool} (ok : r.answer (.scopeStop id mask isOwn) = .ok ()) (whole : r.readsWhole)
    {index : Nat} (member : index < size) :
    (r.next (.scopeStop id mask isOwn)).binding.scopes.sum index id =
      r.binding.scopes.sum index id + (advanced index).toInt64 := by
  obtain ⟨_, cases⟩ := r.binding.scopeStop_cases id mask isOwn r.host
  rcases cases with ⟨e, failed, _⟩ | ⟨snap, _, _, read, _, next⟩
  · cases failed.symm.trans ok
  · have scopes : (r.next (.scopeStop id mask isOwn)).binding.scopes =
        r.binding.scopes.record id isOwn r.binding.group.scope.start snap :=
      congrArg Binding.scopes next
    rw [← isOpen.opened.size_eq] at member
    have covered : index < r.binding.scopes.sums.length := by
      rwa [isOpen.opened.fitted.sums]
    have value := Group.value_of_read isOpen.opened.holds whole read member
    have gap := isOpen.gap index (by rwa [← isOpen.opened.size_eq])
    rw [scopes, Accumulator.sum_record _ _ _ _ _ covered, value, gap]
    grind

/-- Whatever rounds are collected within a scope, and whichever of their reads and zeroings fail:
when the scope stops, the sum of each counter grows by what ticks have added to the counter since
the scope was started. -/
theorem sum_scopeStop {b : Binding} {events : List Event} {h : Host} (sound : h.Sound)
    (opens : (b.init events h).result = .ok ()) (before within : List Act) {id : UInt16}
    {mask : ScopeMask} {isOwn : Bool} :
    let start := (opening b events h).run before
    let inside := start.next (.scopeStart id mask)
    let stop := inside.run within
    start.answer (.scopeStart id mask) = .ok () → start.readsWhole →
      inside.Along (fun r a => r.withinScope a) within →
      stop.answer (.scopeStop id mask isOwn) = .ok () → stop.readsWhole →
      ∀ index < events.length,
        (stop.next (.scopeStop id mask isOwn)).binding.scopes.sum index id =
          stop.binding.scopes.sum index id + (inside.ticked index within).toInt64 := by
  intro start inside stop starts wholeStart between stops wholeStop index member
  have opened := (opened_of_init sound opens).run before
  have isOpen := (scopeOpen_scopeStart opened starts wholeStart).run between
  have grown := isOpen.sum_next stops wholeStop member
  simpa only [UInt64.zero_add] using grown

/-- A scope with a round that is read and zeroed, one whose read fails, one whose zeroing fails,
and a start that is rejected. -/
def sampleScope : List Act :=
  [.outside (.tick 7 none [10, 20]), .collect 1, .outside (.tick 7 none [3, 4]),
    .outside (.fault { call := .reading, effect := .fail .noSpace }), .collect 2,
    .outside (.fault { call := .control .reset, effect := .fail .noSpace }), .collect 3,
    .scopeStart 2 ⟨1⟩, .outside (.tick 7 none [100, 200])]

def sampleInside : Rig :=
  ((opening sampleThread sampleEvents {}).run [.start, .outside (.tick 7 none [5, 6])]).next
    (.scopeStart 1 ⟨1⟩)

theorem sum_scopeStop_sampleScope :
    sampleInside.Along (fun r a => r.withinScope a) sampleScope ∧
      (sampleInside.run sampleScope).answer (.scopeStop 1 ⟨1⟩ false) = .ok () ∧
      sampleInside.ticked 1 sampleScope = 224 ∧
      ((sampleInside.run sampleScope).next (.scopeStop 1 ⟨1⟩ false)).binding.scopes.sum 1 1 =
        (sampleInside.run sampleScope).binding.scopes.sum 1 1 +
          (sampleInside.ticked 1 sampleScope).toInt64 := by
  have opens : (sampleThread.init sampleEvents {}).result = .ok () := by decide +kernel
  have between : sampleInside.Along (fun r a => r.withinScope a) sampleScope := by decide +kernel
  have stops : (sampleInside.run sampleScope).answer (.scopeStop 1 ⟨1⟩ false) = .ok () := by
    decide +kernel
  refine ⟨between, stops, by decide +kernel, ?_⟩
  exact sum_scopeStop (.of_counters_eq_nil rfl) opens [.start, .outside (.tick 7 none [5, 6])]
    sampleScope (by decide +kernel) (by decide +kernel) between stops (by decide +kernel) 1
    (by decide)

end Rig

end ScopeMeter

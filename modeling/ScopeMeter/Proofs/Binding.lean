import ScopeMeter.Binding
import ScopeMeter.Proofs.Group.Opening
import ScopeMeter.Proofs.Scope.Accumulator
import ScopeMeter.Proofs.Series

/-!
# What operations on bindings do

One lemma for each operation of a binding says what becomes of the binding and of the machine,
errors included.  A scope call that fails leaves both as they are.  A collection always appends a
round: the values that were read, or zeros when the read failed.  `Binding.SameMake` names what
every operation on an open binding keeps.
-/

namespace ScopeMeter

namespace Binding

variable {b b' : Binding} {h : Host}

/-- What an open binding is made of: its counters, the names of their events, and how many
counters its scopes are summed for. -/
structure SameMake (b b' : Binding) : Prop where
  members : b'.group.members = b.group.members
  eventNames : b'.eventNames = b.eventNames
  sums : b'.scopes.sums.length = b.scopes.sums.length
  tid : b'.tid = b.tid
  device : b'.device = b.device

theorem SameMake.refl (b : Binding) : SameMake b b := ⟨rfl, rfl, rfl, rfl, rfl⟩

/-! ## Rounds -/

/-- The values that a round appends: those that were read, or zeros. -/
def roundOf (b : Binding) : Except Error Snapshot → Snapshot
  | .ok snap => snap
  | .error _ => .zeroed b.eventNames.length

theorem addClock_eq (b : Binding) (h : Host) :
    ∃ clocks, (b.addClock h).1 = { b with clocks } ∧ h.Unchanged (b.addClock h).2 := by
  have sampled := h.unchanged_sampleClock
  unfold addClock
  split
  · split
    next sample h' eq =>
      rw [eq] at sampled
      exact ⟨_, rfl, sampled⟩
    next h' eq =>
      rw [eq] at sampled
      exact ⟨_, rfl, sampled.trans (Host.unchanged_note ..)⟩
  · exact ⟨b.clocks, rfl, .refl h⟩

/-- A collection leaves the group as the collection of the group does, and appends a round. -/
theorem collect_eq (b : Binding) (now : Int64) (h : Host) :
    (b.collect now h).result = (b.group.collect now h).result.map (fun _ => ()) ∧
      (b.group.collect now h).host.Unchanged (b.collect now h).host ∧
      ∃ clocks, (b.collect now h).next =
        { b.addRound (b.roundOf (b.group.collect now h).result) with
          group := (b.group.collect now h).next, clocks } := by
  unfold collect
  generalize b.group.collect now h = read
  obtain ⟨clocks, next, unchanged⟩ := addClock_eq
    ({ b with group := read.next }.addRound (b.roundOf read.result)) read.host
  refine ⟨rfl, unchanged, clocks, ?_⟩
  exact next

theorem sameMake_collect (b : Binding) (now : Int64) (h : Host) :
    SameMake b (b.collect now h).next := by
  obtain ⟨_, _, clocks, next⟩ := b.collect_eq now h
  rw [next]
  exact ⟨b.group.members_collect now h, rfl, rfl, rfl, rfl⟩

theorem sameCounters_collect (b : Binding) (now : Int64) (h : Host) :
    h.SameCounters (b.collect now h).host := by
  obtain ⟨_, unchanged, _⟩ := b.collect_eq now h
  exact (b.group.sameCounters_collect now h).trans unchanged.same

/-! ## Scopes -/

/-- A scope start fails and changes nothing, or opens the scope with the snapshot of its read. -/
theorem scopeStart_cases (b : Binding) (id : UInt16) (mask : ScopeMask) (h : Host) :
    h.Unchanged (b.scopeStart id mask h).host ∧
    ((∃ e, (b.scopeStart id mask h).result = .error e ∧ (b.scopeStart id mask h).next = b) ∨
      ∃ snap, b.group.scope.check id false = .ok () ∧ (b.group.read h).1 = .ok snap ∧
        (b.scopeStart id mask h).result = .ok () ∧
        (b.scopeStart id mask h).next =
          { b with
            group := { b.group with scope := b.group.scope.record id false snap true }
            scopeMask := some mask }) := by
  obtain ⟨unchanged, cases⟩ := b.group.collectScope_cases id false h
  unfold scopeStart
  rcases eq : b.group.collectScope id false h with ⟨result, next, h'⟩
  rw [eq] at unchanged cases
  rcases cases with ⟨e, failed, same⟩ | ⟨snap, check, read, ok, recorded⟩
  · cases failed
    cases same
    exact ⟨unchanged, .inl ⟨e, rfl, rfl⟩⟩
  · cases ok
    cases recorded
    exact ⟨unchanged, .inr ⟨snap, check, read, rfl, rfl⟩⟩

/-- A scope start is refused exactly when it is out of turn. -/
theorem scopeStart_refused_iff {id : UInt16} {mask : ScopeMask} {fault : ScopeFault} :
    (b.scopeStart id mask h).result = .error (.scope fault) ↔
      b.group.scope.check id false = .error fault := by
  have refused : (b.group.collectScope id false h).result = .error (.scope fault) ↔ _ :=
    Group.collectScope_refused_iff
  unfold scopeStart
  rcases eq : b.group.collectScope id false h with ⟨result, next, h'⟩
  rw [eq] at refused
  cases result with
  | error e => simpa only [Except.error.injEq] using refused
  | ok snap => exact iff_of_false nofun fun check => nomatch refused.mpr check

/-- A scope stop fails and changes nothing, or closes the scope and adds what its counters
advanced by. -/
theorem scopeStop_cases (b : Binding) (id : UInt16) (mask : ScopeMask) (isOwn : Bool) (h : Host) :
    h.Unchanged (b.scopeStop id mask isOwn h).host ∧
    ((∃ e, (b.scopeStop id mask isOwn h).result = .error e ∧
        (b.scopeStop id mask isOwn h).next = b) ∨
      ∃ snap, b.maskFault? id mask = none ∧ b.group.scope.check id true = .ok () ∧
        (b.group.read h).1 = .ok snap ∧ (b.scopeStop id mask isOwn h).result = .ok () ∧
        (b.scopeStop id mask isOwn h).next =
          { b with
            group := { b.group with scope := b.group.scope.record id true snap true }
            scopeMask := none
            scopes := b.scopes.record id isOwn b.group.scope.start snap }) := by
  obtain ⟨unchanged, cases⟩ := b.group.collectScope_cases id true h
  unfold scopeStop
  split
  · exact ⟨.refl h, .inl ⟨_, rfl, rfl⟩⟩
  next matched =>
    rcases eq : b.group.collectScope id true h with ⟨result, next, h'⟩
    rw [eq] at unchanged cases
    rcases cases with ⟨e, failed, same⟩ | ⟨snap, check, read, ok, recorded⟩
    · cases failed
      cases same
      exact ⟨unchanged, .inl ⟨e, rfl, rfl⟩⟩
    · cases ok
      cases recorded
      exact ⟨unchanged.trans (Host.unchanged_noteAll ..),
        .inr ⟨snap, matched, check, read, rfl, rfl⟩⟩

theorem sameMake_scopeStart (b : Binding) (id : UInt16) (mask : ScopeMask) (h : Host) :
    SameMake b (b.scopeStart id mask h).next := by
  rcases (b.scopeStart_cases id mask h).2 with ⟨_, _, next⟩ | ⟨_, _, _, _, next⟩
  · rw [next]
    exact .refl b
  · rw [next]
    exact ⟨rfl, rfl, rfl, rfl, rfl⟩

theorem sameMake_scopeStop (b : Binding) (id : UInt16) (mask : ScopeMask) (isOwn : Bool)
    (h : Host) : SameMake b (b.scopeStop id mask isOwn h).next := by
  rcases (b.scopeStop_cases id mask isOwn h).2 with ⟨_, _, next⟩ | ⟨_, _, _, _, _, next⟩
  · rw [next]
    exact .refl b
  · rw [next]
    exact ⟨rfl, rfl, b.scopes.length_sums_record .., rfl, rfl⟩

/-! ## Stopping -/

theorem sameMake_stop (b : Binding) (h : Host) : SameMake b (b.stop h).next :=
  ⟨rfl, rfl, b.scopes.length_sums_flushed b.eventNames, rfl, rfl⟩

theorem sameCounters_stop (b : Binding) (h : Host) : h.SameCounters (b.stop h).host :=
  b.group.sameCounters_stop h

/-! ## Opening -/

/-- A binding whose group is open: one name and one array of sums for each counter. -/
structure Fitted (b : Binding) : Prop where
  eventNames : b.eventNames = b.group.names
  sums : b.scopes.sums.length = b.group.size

theorem Fitted.of_sameMake (fitted : b.Fitted) (same : SameMake b b') : b'.Fitted := by
  constructor
  · rw [same.eventNames, fitted.eventNames, Group.names, Group.names, same.members]
  · rw [same.sums, fitted.sums, Group.size, Group.size, same.members]

/-- The position of a name is one of a counter. -/
theorem Fitted.index_lt (fitted : b.Fitted) {index : Nat} {name : String}
    (named : b.eventNames[index]? = some name) : index < b.group.size := by
  obtain ⟨bound, _⟩ := List.getElem?_eq_some_iff.1 named
  rwa [fitted.eventNames, Group.names, List.length_map] at bound

/-- Opening a binding fails and restores the machine, or opens a group with one counter for each
event. -/
theorem init_cases (sound : h.Sound) (b : Binding) (events : List Event) :
    (∃ e, (b.init events h).result = .error e ∧ Host.Restored h (b.init events h).host) ∨
    ((b.init events h).result = .ok () ∧ (b.init events h).next.Fitted ∧
      (b.init events h).next.group.size = events.length ∧
      (b.init events h).next.group.scope = {} ∧
      (b.init events h).next.group.Holds (b.init events h).host h.nextHandle ∧
      Host.Opening h h.nextHandle (b.init events h).next.group.members (b.init events h).host) := by
  unfold init
  dsimp only
  rcases Group.init_cases sound b.group events _ _ with ⟨e, failed, _, restored⟩ |
    ⟨ok, scope, names, opening, holds⟩
  · exact .inl ⟨e, failed, restored⟩
  · have size := congrArg List.length names
    rw [Group.names, List.length_map, List.length_map] at size
    refine .inr ⟨ok, ⟨names.symm, ?_⟩, size, scope, holds, opening⟩
    simp only [Accumulator.new, List.length_replicate, Group.size, size]

/-! ## Series -/

/-- The series of a name; the empty one when there is none. -/
def series (b : Binding) (name : String) : Series := (b.results.get? name).getD {}

theorem series_summarize (b : Binding) (name : String) :
    b.summarize.series name = (b.series name).summarize := by
  simp only [series, summarize, Keyed.get?_map]
  cases b.results.get? name <;> rfl

theorem get?_foldl_push_of_notMem {names : List String} {name : String} (absent : name ∉ names)
    (snap : Snapshot) (offset : Nat) (m : SeriesMap) :
    ((names.zipIdx offset).foldl
      (fun m e => m.update e.1 {} fun s => s.push (snap.value e.2)) m).get? name =
      m.get? name := by
  induction names generalizing offset m with
  | nil => rfl
  | cons n names ih =>
    rw [List.mem_cons, not_or] at absent
    rw [List.zipIdx_cons, List.foldl_cons, ih absent.2, Keyed.get?_update,
      if_neg (Ne.symm absent.1)]

theorem get?_foldl_push {names : List String} (distinct : names.Nodup) {name : String}
    {index : Nat} (named : names[index]? = some name) (snap : Snapshot) (offset : Nat)
    (m : SeriesMap) :
    ((names.zipIdx offset).foldl
      (fun m e => m.update e.1 {} fun s => s.push (snap.value e.2)) m).get? name =
      some (((m.get? name).getD {}).push (snap.value (offset + index))) := by
  induction names generalizing offset m index with
  | nil => cases named
  | cons n names ih =>
    rw [List.nodup_cons] at distinct
    rw [List.zipIdx_cons, List.foldl_cons]
    cases index with
    | zero =>
      cases named
      rw [get?_foldl_push_of_notMem distinct.1, Keyed.get?_update, if_pos rfl]
      rfl
    | succ index =>
      rw [List.getElem?_cons_succ] at named
      have apart : n ≠ name := by
        rintro rfl
        exact distinct.1 (List.mem_of_getElem? named)
      rw [ih distinct.2 named, Keyed.get?_update, if_neg apart, Nat.add_assoc, Nat.add_comm 1]

/-- A round appends to the series of each event the value at the position of the event. -/
theorem get?_addRound (distinct : b.eventNames.Nodup) {name : String} {index : Nat}
    (named : b.eventNames[index]? = some name) (snap : Snapshot) :
    (b.addRound snap).results.get? name = some ((b.series name).push (snap.value index)) := by
  have pushed := get?_foldl_push distinct named snap 0 b.results
  rwa [Nat.zero_add] at pushed

/-- A round leaves every series that is not one of an event. -/
theorem get?_addRound_of_notMem {name : String} (absent : name ∉ b.eventNames) (snap : Snapshot) :
    (b.addRound snap).results.get? name = b.results.get? name :=
  get?_foldl_push_of_notMem absent snap 0 b.results

end Binding

end ScopeMeter

import ScopeMeter.Group
import ScopeMeter.Proofs.Host.Reads

/-!
# What operations on groups do

For each operation of an open group one lemma says what it can do to the tracker of the group and
to the counters of the machine: a read changes nothing, a scope call changes the tracker only, and
a collection zeroes the counters exactly when it moves the open scope along (`collect_cases`).
-/

namespace ScopeMeter

namespace Group

variable {g : Group} {h : Host} {leader index : Nat}

/-! ## The counters of a group -/

/-- The machine has one live counter for each member of the group, in the order of the members,
and the first one leads them. -/
structure Holds (g : Group) (h : Host) (leader : Nat) : Prop where
  opened : g.leader? = some leader
  handles : (h.group leader).map (·.handle) = g.handles
  size_le : g.size ≤ maxCounters

/-- What the kernel has counted on the member at a position. -/
def counted (g : Group) (h : Host) (index : Nat) : UInt64 :=
  ((g.handles[index]?.bind h.find?).map (·.value)).getD 0

/-- What a tick adds to the member at a position. -/
def share (g : Group) (h : Host) (tid : Int32) (type : Option UInt32) (amounts : List UInt64)
    (index : Nat) : UInt64 :=
  (g.leader?.map fun leader => h.tickShare tid type amounts leader index).getD 0

theorem Holds.of_same {h' : Host} (holds : g.Holds h leader) (same : h.SameCounters h') :
    g.Holds h' leader :=
  ⟨holds.opened, (same.group_handles leader).trans holds.handles, holds.size_le⟩

/-- Which counters a group has is told by its members. -/
theorem Holds.of_members {g' : Group} (holds : g.Holds h leader)
    (members : g'.members = g.members) : g'.Holds h leader := by
  obtain ⟨opened, handles, size_le⟩ := holds
  refine ⟨?_, ?_, ?_⟩
  · rwa [leader?, members]
  · rwa [Group.handles, members]
  · rwa [size, members]

theorem Holds.length_group (holds : g.Holds h leader) : (h.group leader).length = g.size := by
  have lengths := congrArg List.length holds.handles
  rwa [List.length_map, Group.handles, List.length_map] at lengths

/-- An open group has a member. -/
theorem size_pos (opened : g.leader? = some leader) : 1 ≤ g.size := by
  rw [Group.leader?, Option.map_eq_some_iff] at opened
  obtain ⟨first, head, _⟩ := opened
  exact List.length_pos_of_mem (List.mem_of_mem_head? head)

/-- The members of a group stand in the order in which they were opened. -/
theorem Holds.ascending_handles (sound : h.Sound) (holds : g.Holds h leader) :
    g.handles.Pairwise (· < ·) := by
  rw [← holds.handles, List.pairwise_map]
  exact sound.ascending.sublist List.filter_sublist

/-- The leader of a group is live and leads itself. -/
theorem Holds.exists_leader (holds : g.Holds h leader) :
    ∃ c ∈ h.counters, c.handle = leader ∧ c.leader = leader := by
  have first : g.handles.head? = some leader := by
    rw [Group.handles, List.head?_map]
    exact holds.opened
  rw [← holds.handles, List.head?_map, Option.map_eq_some_iff] at first
  obtain ⟨c, head, handle⟩ := first
  have member := List.mem_of_mem_head? head
  rw [Host.group, List.mem_filter, decide_eq_true_eq] at member
  exact ⟨c, member.1, handle, member.2⟩

/-- What is counted on a member is the count at its position. -/
theorem Holds.counted_eq (sound : h.Sound) (holds : g.Holds h leader) (index : Nat) :
    g.counted h index = h.count leader index := by
  rw [counted, Host.count, ← holds.handles, List.getElem?_map]
  cases at_index : (h.group leader)[index]? with
  | none => rfl
  | some c =>
    have member := List.mem_of_getElem? at_index
    rw [Host.group, List.mem_filter] at member
    simp only [Option.map_some, Option.bind_some, sound.find?_eq member.1]

/-- A tick adds to what is counted on each member its share. -/
theorem Holds.count_tick (sound : h.Sound) (holds : g.Holds h leader) (member : index < g.size)
    (tid : Int32) (type : Option UInt32) (amounts : List UInt64) :
    (h.tick tid type amounts).count leader index =
      h.count leader index + g.share h tid type amounts index := by
  obtain ⟨c, live, handle, leads⟩ := holds.exists_leader
  rw [← holds.length_group, ← handle] at member
  have ticked := Host.count_tick sound live (leads.trans handle.symm) member tid type amounts
  rw [handle] at ticked
  rw [ticked, share, holds.opened, Option.map_some, Option.getD_some]

/-! ## Reads -/

theorem unchanged_read (g : Group) (h : Host) : h.Unchanged (g.read h).2 := by
  unfold read
  split
  · exact .refl h
  next leader _ =>
    have raw := h.unchanged_readGroup leader maxCounters
    split
    next fault h' eq => rwa [eq] at raw
    next count values h' eq =>
      rw [eq] at raw
      dsimp only
      split
      · exact raw
      · exact raw.trans (Host.unchanged_note ..)

/-- A read that succeeds is one of an open group. -/
theorem leader?_of_read {snap : Snapshot} (ok : (g.read h).1 = .ok snap) :
    ∃ leader, g.leader? = some leader := by
  unfold read at ok
  split at ok
  · cases ok
  · exact ⟨_, ‹_›⟩

/-- A read takes one value for each member, as far as a snapshot holds them. -/
theorem size_of_read {snap : Snapshot} (ok : (g.read h).1 = .ok snap)
    (fits : g.size ≤ maxCounters) : snap.size = g.size := by
  unfold read at ok
  split at ok
  · cases ok
  next leader _ =>
    split at ok
    · cases ok
    next told values h' eq =>
      have length : values.length = maxCounters := h.length_of_readGroup (by rw [eq])
      cases ok
      simp only [Snapshot.size, Snapshot.ofValues, List.length_take, List.length_map, length]
      omega

/-- Whether the next read of the group fails or returns the whole group. -/
def readsWhole (g : Group) (h : Host) : Bool := g.leader?.all h.readsWhole

/-- A read that returns the whole group gives the count at each position. -/
theorem value_of_read (holds : g.Holds h leader) (whole : g.readsWhole h) {snap : Snapshot}
    (ok : (g.read h).1 = .ok snap) (member : index < g.size) :
    snap.value index = (h.count leader index).toInt64 := by
  have fits := holds.size_le
  unfold read at ok
  simp only [holds.opened] at ok
  have whole : h.readsWhole leader := by simpa [readsWhole, holds.opened] using whole
  split at ok
  · cases ok
  next told values h' eq =>
    have given := Host.values_of_readGroup whole (by rw [eq])
    subst given
    cases ok
    have covered : index < maxCounters := by omega
    simp only [Snapshot.value, Snapshot.ofValues, List.getElem?_take_of_lt covered,
      List.getElem?_map, List.getElem?_take_of_lt member, getElem?_fillZeros _ covered,
      Host.count, Option.map_some, Option.getD_some]

/-! ## Collections and scope calls -/

/-- A collection fails and changes nothing; or it reads the group and zeroes it, and then the open
scope moves along; or it reads the group and cannot zero it, and then nothing has changed. -/
theorem collect_cases (g : Group) (now : Int64) (h : Host) :
    (∃ e, (g.read h).1 = .error e ∧ (g.collect now h).result = .error e ∧
      (g.collect now h).next = g ∧ h.Unchanged (g.collect now h).host) ∨
    ∃ snap leader, (g.read h).1 = .ok snap ∧ g.leader? = some leader ∧
      (g.collect now h).result = .ok snap ∧
      (((g.read h).2.control .reset leader).1 = .ok () ∧
        (g.collect now h).next = { g with scope := g.scope.rebase snap } ∧
        (g.collect now h).host = ((g.read h).2.control .reset leader).2 ∨
      ((g.read h).2.control .reset leader).1 ≠ .ok () ∧
        (g.collect now h).next = g ∧ h.Unchanged (g.collect now h).host) := by
  have unchanged := g.unchanged_read h
  unfold collect
  rcases eq : g.read h with ⟨result, h'⟩
  rw [eq] at unchanged
  cases result with
  | error e => exact .inl ⟨e, rfl, rfl, rfl, unchanged⟩
  | ok snap =>
    obtain ⟨leader, opened⟩ := leader?_of_read (g := g) (h := h) (by rw [eq])
    refine .inr ⟨snap, leader, rfl, opened, ?_⟩
    simp only [opened]
    have control := h'.control_cases .reset leader
    rcases reset : h'.control .reset leader with ⟨outcome, h''⟩
    rw [reset] at control
    cases outcome with
    | ok _ => exact ⟨rfl, .inl ⟨rfl, rfl, rfl⟩⟩
    | error fault =>
      rcases control with ⟨_, _, kept⟩ | ⟨ok, _⟩
      · exact ⟨rfl, .inr ⟨nofun, rfl, unchanged.trans (kept.trans (Host.unchanged_note ..))⟩⟩
      · cases ok

/-- A scope call is refused, or its read fails, and then nothing has changed; or it is recorded
with the snapshot of its read. -/
theorem collectScope_cases (g : Group) (id : UInt16) (isStop : Bool) (h : Host) :
    h.Unchanged (g.collectScope id isStop h).host ∧
    ((∃ e, (g.collectScope id isStop h).result = .error e ∧
        (g.collectScope id isStop h).next = g) ∨
      ∃ snap, g.scope.check id isStop = .ok () ∧ (g.read h).1 = .ok snap ∧
        (g.collectScope id isStop h).result = .ok snap ∧
        (g.collectScope id isStop h).next =
          { g with scope := g.scope.record id isStop snap true }) := by
  have unchanged := g.unchanged_read h
  unfold collectScope
  split
  · exact ⟨.refl h, .inl ⟨_, rfl, rfl⟩⟩
  next checked =>
    split
    next e h' eq =>
      rw [eq] at unchanged
      exact ⟨unchanged, .inl ⟨_, rfl, rfl⟩⟩
    next snap h' eq =>
      rw [eq] at unchanged
      exact ⟨unchanged, .inr ⟨snap, checked, by rw [eq], rfl, rfl⟩⟩

/-- A collection opens and closes no counter. -/
theorem members_collect (g : Group) (now : Int64) (h : Host) :
    (g.collect now h).next.members = g.members := by
  rcases g.collect_cases now h with ⟨_, _, _, same, _⟩ |
    ⟨_, _, _, _, _, ⟨_, moved, _⟩ | ⟨_, same, _⟩⟩
  · rw [same]
  · rw [moved]
  · rw [same]

theorem members_collectScope (g : Group) (id : UInt16) (isStop : Bool) (h : Host) :
    (g.collectScope id isStop h).next.members = g.members := by
  rcases (g.collectScope_cases id isStop h).2 with ⟨_, _, same⟩ | ⟨_, _, _, _, recorded⟩
  · rw [same]
  · rw [recorded]

/-- No read fails because of the scopes. -/
theorem read_ne_scope (g : Group) (h : Host) (fault : ScopeFault) :
    (g.read h).1 ≠ .error (.scope fault) := by
  unfold read
  split
  · nofun
  · split <;> nofun

/-- A scope call is refused exactly when it is out of turn. -/
theorem collectScope_refused_iff {id : UInt16} {isStop : Bool} {fault : ScopeFault} :
    (g.collectScope id isStop h).result = .error (.scope fault) ↔
      g.scope.check id isStop = .error fault := by
  have read := g.read_ne_scope h fault
  unfold collectScope
  split
  next fault' checked =>
    rw [checked, Except.error.injEq, Except.error.injEq, Error.scope.injEq]
  next checked =>
    rw [checked]
    refine iff_of_false ?_ nofun
    split
    next e h' eq => rwa [eq] at read
    next snap h' eq => nofun

/-! ## Starting and stopping -/

theorem sameCounters_controlAll (leader : Nat) (controls : List Control) (h : Host) :
    h.SameCounters (controlAll leader controls h).2 := by
  induction controls generalizing h with
  | nil => exact .refl h
  | cons control controls ih =>
    have same := h.sameCounters_control control leader
    unfold controlAll
    split
    next fault h' eq => rwa [eq] at same
    next h' eq =>
      rw [eq] at same
      exact same.trans (ih h')

theorem sameCounters_start (g : Group) (h : Host) : h.SameCounters (g.start h).2 := by
  unfold start
  split
  · exact .refl h
  · exact sameCounters_controlAll ..

theorem sameCounters_stop (g : Group) (h : Host) : h.SameCounters (g.stop h).2 := by
  unfold stop
  split
  · exact .refl h
  · exact sameCounters_controlAll ..

theorem sameCounters_collect (g : Group) (now : Int64) (h : Host) :
    h.SameCounters (g.collect now h).host := by
  rcases g.collect_cases now h with ⟨_, _, _, _, unchanged⟩ |
    ⟨_, leader, _, _, _, ⟨_, _, host⟩ | ⟨_, _, unchanged⟩⟩
  · exact unchanged.same
  · rw [host]
    exact (g.unchanged_read h).same.trans (Host.sameCounters_control ..)
  · exact unchanged.same

/-- A start that succeeds leaves zero at each position of the group. -/
theorem count_start (opened : g.leader? = some leader) (ok : (g.start h).1 = .ok ()) (i : Nat) :
    (g.start h).2.count leader i = 0 := by
  unfold start at ok ⊢
  simp only [opened, controlAll] at ok ⊢
  have zeroed : (h.control .reset leader).1 = .ok () →
      (h.control .reset leader).2.count leader i = 0 := fun ok => Host.count_reset ok i
  rcases reset : h.control .reset leader with ⟨result, h'⟩
  rw [reset] at zeroed ok
  cases result with
  | error fault => cases ok
  | ok _ =>
    have counts : Control.enable ≠ .reset := nofun
    have kept := h'.count_control_of_ne_reset counts leader i
    dsimp only
    rcases enable : h'.control .enable leader with ⟨result, h''⟩
    rw [enable] at kept
    have count : h''.count leader i = 0 := kept.trans (zeroed rfl)
    cases result with
    | error fault => exact count
    | ok _ => exact count

/-! ## Other groups -/

theorem count_controlAll_of_ne {other : Nat} (apart : other ≠ leader) (controls : List Control)
    (h : Host) (i : Nat) :
    (controlAll leader controls h).2.count other i = h.count other i := by
  induction controls generalizing h with
  | nil => rfl
  | cons control controls ih =>
    have kept : (h.control control leader).2.count other i = h.count other i :=
      h.count_control_of_ne control apart
    unfold controlAll
    split
    next fault h' eq => rwa [eq] at kept
    next h' eq =>
      rw [eq] at kept
      exact (ih h').trans kept

theorem count_start_of_ne (g : Group) (h : Host) {other : Nat} (apart : g.leader? ≠ some other)
    (i : Nat) : (g.start h).2.count other i = h.count other i := by
  unfold start
  split
  · rfl
  next leader opened =>
    exact count_controlAll_of_ne (fun same => apart (by rw [opened, same])) ..

theorem count_stop_of_ne (g : Group) (h : Host) {other : Nat} (apart : g.leader? ≠ some other)
    (i : Nat) : (g.stop h).2.count other i = h.count other i := by
  unfold stop
  split
  · rfl
  next leader opened =>
    exact count_controlAll_of_ne (fun same => apart (by rw [opened, same])) ..

theorem count_collect_of_ne (g : Group) (now : Int64) (h : Host) {other : Nat}
    (apart : g.leader? ≠ some other) (i : Nat) :
    (g.collect now h).host.count other i = h.count other i := by
  rcases g.collect_cases now h with ⟨_, _, _, _, still⟩ |
    ⟨_, leader, _, opened, _, ⟨_, _, zeroed⟩ | ⟨_, _, still⟩⟩
  · exact still.count other i
  · have kept : (g.collect now h).host.count other i = (g.read h).2.count other i := by
      rw [zeroed]
      exact Host.count_control_of_ne _ _ fun same => apart (by rw [opened, same])
    exact kept.trans ((g.unchanged_read h).count other i)
  · exact still.count other i

end Group

end ScopeMeter

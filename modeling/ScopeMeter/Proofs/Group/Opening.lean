import ScopeMeter.Proofs.Group

/-!
# Opening groups

While a group is being opened its members stand behind the counters that the machine had before,
in the order in which they were opened (`Host.Opening`).  When an opening fails, the machine has
exactly the counters it had before (`Host.Restored`); when it succeeds, the group holds its
counters (`Group.Holds`): the machine has one live counter for each member, in the same order.
-/

namespace ScopeMeter

namespace Host

variable {base h h' : Host} {leader : Nat} {members : List Member}

/-- The machine has the counters that it had before, though handles may have been used up. -/
structure Restored (base h : Host) : Prop where
  counters : h.counters = base.counters
  nextHandle_le : base.nextHandle ≤ h.nextHandle

/-- The machine has opened the members of a group behind the counters that it had before. -/
structure Opening (base : Host) (leader : Nat) (members : List Member) (h : Host) : Prop where
  sound : h.Sound
  nextHandle_le : base.nextHandle ≤ leader
  leader_lt : leader < h.nextHandle
  added : ∃ cs, h.counters = base.counters ++ cs ∧ cs.map (·.handle) = members.map (·.handle) ∧
    ∀ c ∈ cs, c.leader = leader ∧ leader ≤ c.handle

theorem Unchanged.restored (unchanged : Unchanged base h) : Restored base h :=
  ⟨unchanged.counters, Nat.le_of_eq unchanged.nextHandle.symm⟩

theorem Sound.of_restored (sound : base.Sound) (restored : Restored base h) : h.Sound := by
  obtain ⟨counters, next⟩ := restored
  refine ⟨by rw [counters]; exact sound.ascending, ?_, ?_⟩
  · intro c hc
    rw [counters] at hc
    exact Nat.lt_of_lt_of_le (sound.handle_lt c hc) next
  · intro c hc
    rw [counters] at hc
    exact sound.leader_le c hc

/-- Opening a counter fails and changes no counter, or puts a new counter with the next handle
behind the others. -/
theorem openCounter_cases (h : Host) (a : Attributes) (tid cpu : Int32) (leader : Option Nat) :
    (∃ fault, (h.openCounter a tid cpu leader).1 = .error fault ∧
      Unchanged h (h.openCounter a tid cpu leader).2) ∨
    ((h.openCounter a tid cpu leader).1 = .ok h.nextHandle ∧
      (h.openCounter a tid cpu leader).2.nextHandle = h.nextHandle + 1 ∧
      ∃ c : LiveCounter, c.handle = h.nextHandle ∧ c.leader = leader.getD h.nextHandle ∧
        (h.openCounter a tid cpu leader).2.counters = h.counters ++ [c]) := by
  unfold openCounter
  rcases met : h.fire .opening ⟨tid, a.type, a.config⟩ with ⟨effect, h'⟩
  have same := unchanged_of_fire met
  split
  next number h'' shape =>
    cases shape
    exact .inl ⟨_, rfl, same.trans (unchanged_record ..)⟩
  next effect' h'' _ shape =>
    cases shape
    let counter : LiveCounter :=
      { handle := h.nextHandle, leader := leader.getD h.nextHandle, tid, type := a.type,
        config := a.config }
    refine .inr ⟨?_, ?_, counter, rfl, rfl, ?_⟩
    · simp only [same.nextHandle]
    · simp only [record, same.nextHandle]
    · simp only [record, same.nextHandle, same.counters, counter]

/-- A machine stays sound when a counter with the next handle is opened. -/
theorem Sound.push (sound : h.Sound) {c : LiveCounter} (handle : c.handle = h.nextHandle)
    (leader_le : c.leader ≤ c.handle) (counters : h'.counters = h.counters ++ [c])
    (next : h'.nextHandle = h.nextHandle + 1) : h'.Sound := by
  refine ⟨?_, ?_, ?_⟩
  · rw [counters, List.pairwise_append]
    refine ⟨sound.ascending, List.pairwise_singleton .., ?_⟩
    intro d hd e he
    rw [List.mem_singleton.1 he, handle]
    exact sound.handle_lt d hd
  · intro d hd
    rw [counters, List.mem_append, List.mem_singleton] at hd
    rcases hd with hd | rfl
    · have := sound.handle_lt d hd
      omega
    · omega
  · intro d hd
    rw [counters, List.mem_append, List.mem_singleton] at hd
    rcases hd with hd | rfl
    · exact sound.leader_le d hd
    · exact leader_le

/-- The first member of a group is its leader. -/
theorem Opening.first (sound : base.Sound) {c : LiveCounter} (handle : c.handle = base.nextHandle)
    (leads : c.leader = base.nextHandle) (counters : h.counters = base.counters ++ [c])
    (next : h.nextHandle = base.nextHandle + 1) (name : String) :
    Opening base base.nextHandle [⟨name, base.nextHandle⟩] h := by
  refine ⟨sound.push handle (by omega) counters next, Nat.le_refl _, by omega, [c], counters, ?_,
    ?_⟩
  · simp [handle]
  · simp [handle, leads]

/-- Another member stands behind those opened so far. -/
theorem Opening.push (opening : Opening base leader members h) {c : LiveCounter}
    (handle : c.handle = h.nextHandle) (leads : c.leader = leader)
    (counters : h'.counters = h.counters ++ [c]) (next : h'.nextHandle = h.nextHandle + 1)
    (name : String) : Opening base leader (members ++ [⟨name, h.nextHandle⟩]) h' := by
  obtain ⟨sound, next_le, leader_lt, cs, split, handles, led⟩ := opening
  refine ⟨sound.push handle (by omega) counters next, next_le, by omega, cs ++ [c], ?_, ?_, ?_⟩
  · rw [counters, split, List.append_assoc]
  · simp [handles, handle]
  · intro d hd
    rw [List.mem_append, List.mem_singleton] at hd
    rcases hd with hd | rfl
    · exact led d hd
    · exact ⟨leads, by omega⟩

theorem Opening.of_unchanged (opening : Opening base leader members h)
    (unchanged : Unchanged h h') : Opening base leader members h' := by
  obtain ⟨sound, next_le, leader_lt, cs, split, handles, led⟩ := opening
  rw [← unchanged.nextHandle] at leader_lt
  exact ⟨sound.of_same unchanged.same, next_le, leader_lt, cs, unchanged.counters.trans split,
    handles, led⟩

/-- Closing counters that were opened behind those of a machine leaves exactly the latter. -/
theorem Sound.counters_closeAll (sound : base.Sound) {cs : List LiveCounter}
    (split : h.counters = base.counters ++ cs) (younger : ∀ c ∈ cs, base.nextHandle ≤ c.handle) :
    (h.closeAll (cs.map (·.handle))).counters = base.counters := by
  simp only [Host.closeAll, split, List.filter_append]
  have kept : base.counters.filter (fun c => c.handle ∉ cs.map (·.handle)) = base.counters := by
    apply List.filter_eq_self.2
    intro c hc
    have older := sound.handle_lt c hc
    simp only [List.mem_map, not_exists, not_and, decide_eq_true_eq]
    intro d hd same
    have := younger d hd
    omega
  have closed : cs.filter (fun c => c.handle ∉ cs.map (·.handle)) = [] := by
    apply List.filter_eq_nil_iff.2
    intro c hc
    simp only [decide_eq_true_eq, not_not]
    exact List.mem_map_of_mem hc
  rw [kept, closed, List.append_nil]

/-- Closing the members opened so far restores the machine. -/
theorem Opening.restored (sound : base.Sound) (opening : Opening base leader members h) :
    Restored base (h.closeAll (members.map (·.handle))) := by
  obtain ⟨_, next_le, leader_lt, cs, split, handles, led⟩ := opening
  refine ⟨?_, by simp only [closeAll]; omega⟩
  rw [← handles]
  apply sound.counters_closeAll split
  intro c hc
  have := (led c hc).2
  omega

/-- A control call on the new group leaves the counters that the machine had before. -/
theorem Opening.control (sound : base.Sound) (opening : Opening base leader members h)
    (control : Control) : Opening base leader members (h.control control leader).2 := by
  have same := h.sameCounters_control control leader
  have soundAfter := opening.sound.of_same same
  obtain ⟨_, next_le, leader_lt, cs, split, handles, led⟩ := opening
  rw [← same.nextHandle] at leader_lt
  rcases h.control_cases control leader with ⟨_, _, unchanged⟩ | ⟨_, unchanged⟩
  · exact ⟨soundAfter, next_le, leader_lt, cs, unchanged.counters.trans split, handles, led⟩
  · refine ⟨soundAfter, next_le, leader_lt, cs.map (applyControl control), ?_, ?_, ?_⟩
    · rw [unchanged.counters]
      simp only [updateGroup, split, List.map_append]
      congr 1
      · refine (List.map_congr_left ?_).trans (List.map_id _)
        intro c hc
        have := sound.handle_lt c hc
        have := sound.leader_le c hc
        rw [if_neg (by omega), id]
      · exact List.map_congr_left fun c hc => if_pos (led c hc).1
    · rw [← handles, List.map_map]
      apply List.map_congr_left
      intro c _
      cases control <;> rfl
    · intro c hc
      obtain ⟨d, hd, rfl⟩ := List.mem_map.1 hc
      cases control <;> exact led d hd

/-- The groups that the machine had before stay as they are. -/
theorem Opening.group_of_lt (opening : Opening base leader members h) {other : Nat}
    (older : other < base.nextHandle) : h.group other = base.group other := by
  obtain ⟨_, next_le, _, cs, split, _, led⟩ := opening
  have none : cs.filter (fun c => c.leader = other) = [] := by
    apply List.filter_eq_nil_iff.2
    intro c hc
    have := (led c hc).1
    simp only [decide_eq_true_eq]
    omega
  rw [group, split, List.filter_append, none, List.append_nil, group]

/-- The new group consists of its members. -/
theorem Opening.group_handles (sound : base.Sound) (opening : Opening base leader members h) :
    (h.group leader).map (·.handle) = members.map (·.handle) := by
  obtain ⟨_, next_le, _, cs, split, handles, led⟩ := opening
  have none : base.counters.filter (fun c => c.leader = leader) = [] := by
    apply List.filter_eq_nil_iff.2
    intro c hc
    have := sound.handle_lt c hc
    have := sound.leader_le c hc
    simp only [decide_eq_true_eq]
    omega
  have all : cs.filter (fun c => c.leader = leader) = cs :=
    List.filter_eq_self.2 fun c hc => by simp [(led c hc).1]
  rw [group, split, List.filter_append, none, all, List.nil_append, handles]

end Host

namespace Group

variable {base h : Host} {leader : Nat}

/-- An opening that fails leaves the open groups of the machine open. -/
theorem Holds.of_restored {g : Group} (holds : g.Holds base leader)
    (restored : Host.Restored base h) : g.Holds h leader := by
  obtain ⟨opened, handles, size_le⟩ := holds
  refine ⟨opened, ?_, size_le⟩
  rwa [Host.group, restored.counters]

/-- Opening siblings fails and restores the machine, or puts one member for each event behind
those opened so far. -/
theorem openSiblings_cases (sound : base.Sound) (tid cpu : Int32) (events : List Event)
    {opened : List Member} (opening : Host.Opening base leader opened h) :
    (∃ e, (openSiblings leader tid cpu events opened h).1 = .error e ∧
      Host.Restored base (openSiblings leader tid cpu events opened h).2) ∨
    ∃ rest, (openSiblings leader tid cpu events opened h).1 = .ok (opened ++ rest) ∧
      rest.map (·.name) = events.map (·.name) ∧
      Host.Opening base leader (opened ++ rest)
        (openSiblings leader tid cpu events opened h).2 := by
  induction events generalizing opened h with
  | nil => exact .inr ⟨[], by simp [openSiblings], rfl, by simpa [openSiblings] using opening⟩
  | cons e events ih =>
    have step := h.openCounter_cases e.attributes tid cpu (some leader)
    unfold openSiblings
    rcases eq : h.openCounter e.attributes tid cpu (some leader) with ⟨result, h'⟩
    rw [eq] at step
    rcases step with ⟨fault, failed, unchanged⟩ | ⟨ok, next, c, handle, leads, counters⟩
    · cases failed
      have closed := (opening.of_unchanged unchanged).restored sound
      exact .inl ⟨_, rfl, closed⟩
    · cases ok
      have opening' := opening.push handle leads counters next e.name
      rcases ih opening' with ⟨e', failed, restored⟩ | ⟨rest, ok, names, done⟩
      · exact .inl ⟨e', failed, restored⟩
      · refine .inr ⟨⟨e.name, h.nextHandle⟩ :: rest, ?_, ?_, ?_⟩
        · simp only [ok, List.append_assoc, List.singleton_append]
        · simp only [List.map_cons, names]
        · simpa only [List.append_assoc, List.singleton_append] using done

/-- Opening all members fails and restores the machine, or opens one member for each event with
the first as the leader. -/
theorem openMembers_cases (sound : h.Sound) (first : Event) (rest : List Event)
    (tid cpu : Int32) :
    (∃ e, (openMembers first rest tid cpu h).1 = .error e ∧
      Host.Restored h (openMembers first rest tid cpu h).2) ∨
    ∃ siblings, (openMembers first rest tid cpu h).1 =
        .ok (⟨first.name, h.nextHandle⟩ :: siblings) ∧
      siblings.map (·.name) = rest.map (·.name) ∧
      Host.Opening h h.nextHandle (⟨first.name, h.nextHandle⟩ :: siblings)
        (openMembers first rest tid cpu h).2 := by
  have step := h.openCounter_cases first.attributes tid cpu none
  unfold openMembers
  rcases eq : h.openCounter first.attributes tid cpu none with ⟨result, h'⟩
  rw [eq] at step
  rcases step with ⟨fault, failed, unchanged⟩ | ⟨ok, next, c, handle, leads, counters⟩
  · cases failed
    exact .inl ⟨_, rfl, unchanged.restored⟩
  · cases ok
    have opening := Host.Opening.first sound handle leads counters next first.name
    exact openSiblings_cases sound tid cpu rest opening

/-- Zeroing and stopping the new group fails and restores the machine, or leaves the group open. -/
theorem quiesce_cases (sound : base.Sound) {members : List Member}
    (opening : Host.Opening base leader members h) :
    (∃ e, (quiesce leader members h).1 = .error e ∧
      Host.Restored base (quiesce leader members h).2) ∨
    ((quiesce leader members h).1 = .ok () ∧
      Host.Opening base leader members (quiesce leader members h).2) := by
  have zeroed := opening.control sound .reset
  unfold quiesce
  rcases reset : h.control .reset leader with ⟨result, h'⟩
  rw [reset] at zeroed
  cases result with
  | error fault => exact .inl ⟨_, rfl, zeroed.restored sound⟩
  | ok _ =>
    have stopped := zeroed.control sound .disable
    dsimp only at stopped ⊢
    rcases disable : h'.control .disable leader with ⟨result, h''⟩
    rw [disable] at stopped
    cases result with
    | error fault => exact .inl ⟨_, rfl, stopped.restored sound⟩
    | ok _ => exact .inr ⟨rfl, stopped⟩

/-- Opening a group fails, and then group and machine are as before; or the group, which was not
open, holds one counter for each event. -/
theorem init_cases (sound : h.Sound) (g : Group) (events : List Event) (tid cpu : Option Int32) :
    (∃ e, (g.init events tid cpu h).result = .error e ∧ (g.init events tid cpu h).next = g ∧
      Host.Restored h (g.init events tid cpu h).host) ∨
    ((g.init events tid cpu h).result = .ok () ∧ (g.init events tid cpu h).next.scope = {} ∧
      (g.init events tid cpu h).next.names = events.map (·.name) ∧
      Host.Opening h h.nextHandle (g.init events tid cpu h).next.members
        (g.init events tid cpu h).host ∧
      (g.init events tid cpu h).next.Holds (g.init events tid cpu h).host h.nextHandle) := by
  have same : Host.Restored h h := (Host.Unchanged.refl h).restored
  unfold init
  split
  · exact .inl ⟨_, rfl, rfl, same⟩
  · cases events with
    | nil => exact .inl ⟨_, rfl, rfl, same⟩
    | cons first rest =>
      dsimp only
      split
      · exact .inl ⟨_, rfl, rfl, same⟩
      next fits =>
        have opens := openMembers_cases sound first rest (tid.getD (-1)) (cpu.getD (-1))
        rcases eq : openMembers first rest (tid.getD (-1)) (cpu.getD (-1)) h with ⟨result, h'⟩
        rw [eq] at opens
        rcases opens with ⟨e, failed, restored⟩ | ⟨siblings, ok, names, opening⟩
        · cases failed
          exact .inl ⟨_, rfl, rfl, restored⟩
        · cases ok
          have quiets := quiesce_cases sound opening
          simp only [List.head?_cons, Option.map_some, Option.getD_some]
          rcases eq' : quiesce h.nextHandle (⟨first.name, h.nextHandle⟩ :: siblings) h' with
            ⟨result, h''⟩
          rw [eq'] at quiets
          rcases quiets with ⟨e, failed, restored⟩ | ⟨ok, opening'⟩
          · cases failed
            exact .inl ⟨_, rfl, rfl, restored⟩
          · cases ok
            have count : siblings.length = rest.length := by
              simpa only [List.length_map] using congrArg List.length names
            refine .inr ⟨rfl, rfl, ?_, opening', rfl, opening'.group_handles sound, ?_⟩
            · simp only [Group.names, List.map_cons, names]
            · simp only [size, List.length_cons, count] at fits ⊢
              omega

end Group

end ScopeMeter

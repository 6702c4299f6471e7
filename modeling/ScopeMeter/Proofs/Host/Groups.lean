import Mathlib.Data.List.Nodup
import ScopeMeter.Proofs.Host.Counters

/-!
# What groups have counted

`Host.count` is what the counter at a position of a group has counted.  Zeroing a group sets the
counts of its positions to zero, every other call leaves them, and no call on one group touches
the counts of another one.  Passing time adds to each position of a counting group its share
(`count_tick`), which `Host.tickShare` tells from the leader of the group alone.
-/

namespace ScopeMeter

namespace Host

/-- What the counter at a position of a group has counted; zero where the group has no counter. -/
def count (h : Host) (leader index : Nat) : UInt64 :=
  ((h.group leader)[index]?.map (·.value)).getD 0

/-- What a tick adds to the counter at a position of a group: the amount at that position, if the
group counts, follows the thread and is of the family. -/
def tickShare (h : Host) (tid : Int32) (type : Option UInt32) (amounts : List UInt64)
    (leader index : Nat) : UInt64 :=
  match h.find? leader with
  | some c =>
    if c.enabled && c.tid = tid && type.all (· = c.type) then amounts[index]?.getD 0 else 0
  | none => 0

variable {h h' : Host} {leader other index : Nat}

/-! ## Groups -/

theorem Unchanged.group (unchanged : Unchanged h h') (leader : Nat) :
    h'.group leader = h.group leader := by
  rw [Host.group, unchanged.counters, Host.group]

theorem Unchanged.count (unchanged : Unchanged h h') (leader index : Nat) :
    h'.count leader index = h.count leader index := by
  rw [Host.count, unchanged.group, Host.count]

theorem group_identities (h : Host) (leader : Nat) :
    (h.group leader).map LiveCounter.identity =
      h.identities.filter fun c => c.leader = leader := by
  rw [identities, group, List.filter_map]
  rfl

/-- The handles of a group stay while no counter is opened or closed. -/
theorem SameCounters.group_handles (same : SameCounters h h') (leader : Nat) :
    (h'.group leader).map (·.handle) = (h.group leader).map (·.handle) := by
  have handles : ∀ k : Host, (k.group leader).map (·.handle) =
      (k.identities.filter fun c => c.leader = leader).map (·.handle) := by
    intro k
    rw [← group_identities, List.map_map]
    rfl
  rw [handles h', handles h, same.identities]

theorem updateGroup_group_self {f : LiveCounter → LiveCounter}
    (keeps : ∀ c, (f c).leader = c.leader) (h : Host) (leader : Nat) :
    (h.updateGroup leader f).group leader = (h.group leader).map f := by
  simp only [group, updateGroup]
  induction h.counters with
  | nil => rfl
  | cons c cs ih => by_cases same : c.leader = leader <;> simp [same, keeps, ih]

theorem updateGroup_group_of_ne {f : LiveCounter → LiveCounter}
    (keeps : ∀ c, (f c).leader = c.leader) (h : Host) (apart : other ≠ leader) :
    (h.updateGroup leader f).group other = h.group other := by
  simp only [group, updateGroup]
  induction h.counters with
  | nil => rfl
  | cons c cs ih =>
    by_cases same : c.leader = leader
    · simp [same, keeps, ih, apart.symm]
    · simp [same, ih, List.filter_cons]

theorem applyControl_leader (control : Control) (c : LiveCounter) :
    (applyControl control c).leader = c.leader := by
  cases control <;> rfl

/-! ## Control calls -/

/-- A control call on one group leaves the counts of every other group. -/
theorem count_control_of_ne (h : Host) (control : Control) (apart : other ≠ leader) :
    (h.control control leader).2.count other index = h.count other index := by
  rcases h.control_cases control leader with ⟨_, _, unchanged⟩ | ⟨_, unchanged⟩
  · exact unchanged.count ..
  · rw [unchanged.count, count, updateGroup_group_of_ne (applyControl_leader control) h apart,
      count]

theorem count_updateGroup_reset (h : Host) (leader index : Nat) :
    (h.updateGroup leader (applyControl .reset)).count leader index = 0 := by
  rw [count, updateGroup_group_self (applyControl_leader .reset), List.getElem?_map]
  cases (h.group leader)[index]? <;> rfl

/-- Zeroing a group leaves zero at each of its positions. -/
theorem count_reset (ok : (h.control .reset leader).1 = .ok ()) (index : Nat) :
    (h.control .reset leader).2.count leader index = 0 := by
  rcases h.control_cases .reset leader with ⟨_, failed, _⟩ | ⟨_, unchanged⟩
  · rw [ok] at failed
    cases failed
  · rw [unchanged.count, count_updateGroup_reset]

/-- Starting and stopping a group leave what it has counted. -/
theorem count_control_of_ne_reset {control : Control} (counts : control ≠ .reset) (h : Host)
    (leader index : Nat) :
    (h.control control leader).2.count leader index = h.count leader index := by
  rcases h.control_cases control leader with ⟨_, _, unchanged⟩ | ⟨_, unchanged⟩
  · exact unchanged.count ..
  · have value : ∀ c, (applyControl control c).value = c.value := by
      cases control with
      | reset => exact absurd rfl counts
      | enable => exact fun _ => rfl
      | disable => exact fun _ => rfl
    rw [unchanged.count, count, updateGroup_group_self (applyControl_leader control),
      List.getElem?_map, count]
    cases (h.group leader)[index]? with
    | none => rfl
    | some c => exact value c

/-! ## Passing time -/

section Feed

variable {f : UInt64 → UInt64 → UInt64}

/-- A counter with the value that it is handed, if there is one. -/
def handed (f : UInt64 → UInt64 → UInt64) (v : Option UInt64) (c : LiveCounter) : LiveCounter :=
  match v with
  | some v => { c with value := f c.value v }
  | none => c

@[simp] theorem handed_none : handed f none = id := rfl

/-- Feeding one group leaves every other group. -/
theorem filter_feed_of_ne (cs : List LiveCounter) (vs : List UInt64) (apart : other ≠ leader) :
    (feed f leader cs vs).filter (fun c => c.leader = other) =
      cs.filter fun c => c.leader = other := by
  induction cs generalizing vs with
  | nil => simp [feed]
  | cons c cs ih =>
    cases vs with
    | nil => rfl
    | cons v vs =>
      unfold feed
      split
      next same => simp [same, apart.symm, ih]
      next => simp [List.filter_cons, ih]

/-- Feeding a group hands the counter at each position the value at that position. -/
theorem getElem?_filter_feed (cs : List LiveCounter) (vs : List UInt64) (leader index : Nat) :
    ((feed f leader cs vs).filter fun c => c.leader = leader)[index]? =
      (cs.filter fun c => c.leader = leader)[index]?.map (handed f vs[index]?) := by
  induction cs generalizing vs index with
  | nil => simp [feed]
  | cons c cs ih =>
    cases vs with
    | nil => simp [feed]
    | cons v vs =>
      unfold feed
      split
      next same =>
        cases index with
        | zero => simp [same, handed]
        | succ index => simpa [same] using ih vs index
      next different => simpa [different] using ih (v :: vs) index

/-- Of several groups that are fed one after the other, each once, those among them are fed and
the others stay. -/
theorem getElem?_filter_foldl_feed {leaders : List LiveCounter}
    (once : (leaders.map (·.handle)).Nodup) (cs : List LiveCounter) (vs : List UInt64)
    (leader index : Nat) :
    ((leaders.foldl (fun cs l => feed f l.handle cs vs) cs).filter
        fun c => c.leader = leader)[index]? =
      if leader ∈ leaders.map (·.handle) then
        (cs.filter fun c => c.leader = leader)[index]?.map (handed f vs[index]?)
      else (cs.filter fun c => c.leader = leader)[index]? := by
  induction leaders generalizing cs with
  | nil => simp
  | cons l leaders ih =>
    simp only [List.map_cons, List.nodup_cons] at once
    rw [List.foldl_cons, ih once.2]
    by_cases same : leader = l.handle
    · subst same
      simp [once.1, getElem?_filter_feed]
    · simp [same, filter_feed_of_ne cs vs same]

end Feed

/-! ## Counters by handle -/

theorem Sound.nodup_handles (sound : h.Sound) : (h.counters.map (·.handle)).Nodup :=
  List.pairwise_map.2 (sound.ascending.imp fun less => Nat.ne_of_lt less)

/-- A live counter is found by its handle. -/
theorem Sound.find?_eq (sound : h.Sound) {c : LiveCounter} (member : c ∈ h.counters) :
    h.find? c.handle = some c := by
  unfold find?
  cases found : h.counters.find? fun d => d.handle = c.handle with
  | none =>
    have absent := List.find?_eq_none.1 found c member
    simp at absent
  | some d =>
    have same : d.handle = c.handle := by simpa using List.find?_some found
    have eq := List.inj_on_of_nodup_map sound.nodup_handles (List.mem_of_find?_eq_some found)
      member same
    rw [eq]

/-- The counters of a group that leads itself are those that a tick of its thread meets. -/
theorem Sound.mem_leadersOf_iff (sound : h.Sound) {c : LiveCounter} (member : c ∈ h.counters)
    (leads : c.leader = c.handle) (tid : Int32) (type : Option UInt32) :
    c.handle ∈ ((h.leadersOf tid type).filter (·.enabled)).map (·.handle) ↔
      c.enabled && c.tid = tid && type.all (· = c.type) := by
  constructor
  · intro ticked
    obtain ⟨d, hd, same⟩ := List.mem_map.1 ticked
    simp only [leadersOf, List.mem_filter] at hd
    have eq := List.inj_on_of_nodup_map sound.nodup_handles hd.1.1 member same
    subst eq
    simp_all
  · intro meets
    refine List.mem_map.2 ⟨c, ?_, rfl⟩
    simp only [leadersOf, List.mem_filter]
    simp_all

/-- A tick adds to the count at each position of a group its share. -/
theorem count_tick (sound : h.Sound) {c : LiveCounter} (member : c ∈ h.counters)
    (leads : c.leader = c.handle) (covered : index < (h.group c.handle).length) (tid : Int32)
    (type : Option UInt32) (amounts : List UInt64) :
    (h.tick tid type amounts).count c.handle index =
      h.count c.handle index + h.tickShare tid type amounts c.handle index := by
  have once : (((h.leadersOf tid type).filter (·.enabled)).map (·.handle)).Nodup :=
    sound.nodup_handles.sublist ((List.filter_sublist.trans List.filter_sublist).map _)
  have fed := getElem?_filter_foldl_feed (f := (· + ·)) once h.counters amounts c.handle index
  obtain ⟨d, present⟩ : ∃ d, (h.group c.handle)[index]? = some d :=
    ⟨_, List.getElem?_eq_getElem covered⟩
  have before : h.count c.handle index = d.value := by simp [count, present]
  simp only [group] at present
  rw [before, count, group, tick, fed, tickShare, sound.find?_eq member, present]
  simp only [sound.mem_leadersOf_iff member leads]
  split
  · cases amounts[index]? <;> simp [handed]
  · simp

end Host

end ScopeMeter

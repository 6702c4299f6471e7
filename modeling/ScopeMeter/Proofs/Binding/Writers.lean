import Mathlib.Data.List.Basic
import ScopeMeter.Proofs.Binding.Machine
import ScopeMeter.Proofs.Binding.Run
import ScopeMeter.Proofs.Group.Answers

/-!
# Who writes a series

Only rounds and stops lengthen a series of a binding: a round those of the events, a stop those of
the scopes (`Rig.lengthens_cases`).  So every series has writers of one kind along every run, as
long as no event has the name of a series of scopes (`Rig.Opened.oneWriter`).  If one has, a scope,
a stop and a round are enough for a series that is written in both ways
(`Rig.Opened.not_oneWriter`).
-/

namespace ScopeMeter

/-! ## How long series are -/

/-- How many values there are under a name. -/
def SeriesMap.sizeAt (m : SeriesMap) (name : String) : Nat := ((m.get? name).getD {}).size

namespace Accumulator

variable {a : Accumulator} {names : List String}

theorem sizeAt_appendTo (m : SeriesMap) (key name : String) (values : List Int64) :
    (appendTo m key values).sizeAt name =
      m.sizeAt name + if key = name then values.length else 0 := by
  unfold SeriesMap.sizeAt
  split
  next same =>
    subst same
    rw [get?_appendTo_self]
    unfold extended
    split
    next none => rw [none, List.length_nil, Nat.add_zero]
    next => exact Series.size_append ..
  next apart => rw [get?_appendTo_of_ne m apart, Nat.add_zero]

/-- Flushing arrays of one length adds that many values for each array that goes to a series. -/
theorem sizeAt_foldl_appendTo {entries : List (String × List Int64)} {length : Nat}
    (level : ∀ e ∈ entries, e.2.length = length) (m : SeriesMap) (name : String) :
    SeriesMap.sizeAt (entries.foldl (fun m e => appendTo m e.1 e.2) m) name =
      m.sizeAt name + (entries.map Prod.fst).count name * length := by
  induction entries generalizing m with
  | nil => rw [List.map_nil, List.count_nil, Nat.zero_mul]; rfl
  | cons e entries ih =>
    rw [List.forall_mem_cons] at level
    rw [List.foldl_cons, ih level.2, sizeAt_appendTo, List.map_cons, List.count_cons, level.1]
    by_cases same : e.1 = name
    · rw [if_pos same, if_pos (beq_iff_eq.mpr same), Nat.add_mul, Nat.one_mul]
      omega
    · rw [if_neg same, if_neg (by simpa using same), Nat.add_zero, Nat.add_zero]

theorem sizeAt_flushInto {length : Nat} (level : a.Level length)
    (sized : a.sums.length = names.length) (m : SeriesMap) (name : String) :
    (a.flushInto names m).sizeAt name =
      m.sizeAt name + (scopeNames names).count name * length := by
  rw [← keys_arrays sized]
  exact sizeAt_foldl_appendTo (level.length_arrays names) m name

end Accumulator

namespace Binding

theorem sizeAt_foldl_push (names : List String) (snap : Snapshot) (offset : Nat) (m : SeriesMap)
    (name : String) :
    SeriesMap.sizeAt ((names.zipIdx offset).foldl
      (fun m e => m.update e.1 {} fun s => s.push (snap.value e.2)) m) name =
      m.sizeAt name + names.count name := by
  induction names generalizing offset m with
  | nil => rfl
  | cons n names ih =>
    rw [List.zipIdx_cons, List.foldl_cons, ih, List.count_cons, SeriesMap.sizeAt, Keyed.get?_update,
      SeriesMap.sizeAt]
    by_cases same : n = name
    · subst same
      rw [if_pos rfl, if_pos (beq_self_eq_true n), Option.getD_some, Series.push,
        Series.size_append, List.length_singleton, Nat.add_assoc, Nat.add_comm 1]
    · rw [if_neg same, if_neg (by simpa using same), Nat.add_zero]

/-- A round adds one value for each event of a name. -/
theorem sizeAt_collect (b : Binding) (now : Int64) (h : Host) (name : String) :
    (b.collect now h).next.results.sizeAt name =
      b.results.sizeAt name + b.eventNames.count name := by
  obtain ⟨_, _, _, next⟩ := b.collect_eq now h
  rw [next]
  exact sizeAt_foldl_push ..

/-! ## Scope calls that succeed -/

theorem scopeStart_of_read {b : Binding} {h : Host} {id : UInt16} {snap : Snapshot}
    (mask : ScopeMask) (turn : b.group.scope.check id false = .ok ())
    (read : (b.group.read h).1 = .ok snap) :
    ∃ start, (b.scopeStart id mask h).next =
      { b with
        group := { b.group with scope := b.group.scope.record id false start true }
        scopeMask := some mask } := by
  rcases (b.scopeStart_cases id mask h).2 with ⟨e, failed, _⟩ | ⟨start, _, _, _, next⟩
  · unfold scopeStart Group.collectScope at failed
    rcases answer : b.group.read h with ⟨result, h'⟩
    rw [answer] at read
    subst read
    simp only [turn, answer] at failed
    cases failed
  · exact ⟨start, next⟩

theorem scopeStop_of_read {b : Binding} {h : Host} {id : UInt16} {mask : ScopeMask}
    {snap : Snapshot} (isOwn : Bool) (matched : b.maskFault? id mask = none)
    (turn : b.group.scope.check id true = .ok ()) (read : (b.group.read h).1 = .ok snap) :
    ∃ stop, (b.scopeStop id mask isOwn h).next.scopes =
      b.scopes.record id isOwn b.group.scope.start stop := by
  rcases (b.scopeStop_cases id mask isOwn h).2 with ⟨e, failed, _⟩ | ⟨stop, _, _, _, _, next⟩
  · unfold scopeStop Group.collectScope at failed
    rcases answer : b.group.read h with ⟨result, h'⟩
    rw [answer] at read
    subst read
    simp only [matched, turn, answer] at failed
    cases failed
  · have scopes := congrArg Binding.scopes next
    exact ⟨stop, scopes⟩

theorem faultless_scopeStart (b : Binding) {h : Host} (faultless : h.Faultless) (id : UInt16)
    (mask : ScopeMask) : (b.scopeStart id mask h).host.Faultless := by
  have after := b.group.faultless_collectScope faultless id false
  unfold scopeStart
  dsimp only
  split <;> exact after

end Binding

namespace Rig

/-- An act lengthens the series of a name. -/
def Lengthens (r : Rig) (name : String) (a : Act) : Prop :=
  r.binding.results.sizeAt name < (r.next a).binding.results.sizeAt name

def Act.isRound : Act → Prop
  | .collect _ => True
  | _ => False

/-- Along a run a series is lengthened by rounds only, or by stops only. -/
def OneWriter (r : Rig) (name : String) (acts : List Act) : Prop :=
  r.Along (fun r a => r.Lengthens name a → a.isRound) acts ∨
    r.Along (fun r a => r.Lengthens name a → a = .stop) acts

variable {r : Rig} {a : Act} {name : String} {leader size : Nat}

/-- A series is lengthened by a round as one of an event, or by a stop as one of scopes. -/
theorem lengthens_cases (sized : r.binding.scopes.sums.length = r.binding.eventNames.length)
    (longer : r.Lengthens name a) :
    a.isRound ∧ name ∈ r.binding.eventNames ∨
      a = .stop ∧ name ∈ Accumulator.scopeNames r.binding.eventNames := by
  -- An act that leaves the series alone is none that lengthens one.
  have kept : (r.next a).binding.results ≠ r.binding.results := by
    intro same
    rw [Lengthens, same] at longer
    exact Nat.lt_irrefl _ longer
  cases a with
  | start => exact absurd rfl kept
  | outside stimulus => exact absurd rfl kept
  | collect now =>
    refine .inl ⟨trivial, ?_⟩
    have grown : (r.next (.collect now)).binding.results.sizeAt name = _ :=
      r.binding.sizeAt_collect now r.host name
    rw [Lengthens, grown] at longer
    apply List.count_pos_iff.mp
    omega
  | stop =>
    refine .inr ⟨rfl, ?_⟩
    by_contra absent
    have same : (r.next .stop).binding.results.get? name = r.binding.results.get? name :=
      Accumulator.get?_flushInto sized absent r.binding.results
    rw [Lengthens, SeriesMap.sizeAt, SeriesMap.sizeAt, same] at longer
    exact Nat.lt_irrefl _ longer
  | scopeStart id mask =>
    apply absurd _ kept
    rcases (r.binding.scopeStart_cases id mask r.host).2 with ⟨_, _, next⟩ | ⟨_, _, _, _, next⟩
    · exact congrArg Binding.results next
    · have results := congrArg Binding.results next
      exact results
  | scopeStop id mask isOwn =>
    apply absurd _ kept
    rcases (r.binding.scopeStop_cases id mask isOwn r.host).2 with
      ⟨_, _, next⟩ | ⟨_, _, _, _, _, next⟩
    · exact congrArg Binding.results next
    · have results := congrArg Binding.results next
      exact results
  | summarize =>
    have shorter : (r.next .summarize).binding.results.sizeAt name ≤
        r.binding.results.sizeAt name := by
      have summed : (r.next .summarize).binding.results.sizeAt name =
          (r.binding.series name).summarize.size :=
        congrArg Series.size (r.binding.series_summarize name)
      rw [summed]
      exact Series.size_summarize_le _
    exact absurd longer (Nat.not_lt.mpr shorter)
  | clear => exact absurd longer (Nat.not_lt_zero _)

theorem Opened.sized (opened : r.Opened leader size) :
    r.binding.scopes.sums.length = r.binding.eventNames.length := by
  rw [opened.fitted.sums, opened.fitted.eventNames, Group.names, List.length_map, Group.size]

/-- What lengthens a series along a run is what can lengthen it by its name. -/
theorem Opened.along_lengthens (opened : r.Opened leader size) {P : Act → Prop}
    (only : ∀ a, a.isRound ∧ name ∈ r.binding.eventNames ∨
      a = .stop ∧ name ∈ Accumulator.scopeNames r.binding.eventNames → P a) (acts : List Act) :
    r.Along (fun r a => r.Lengthens name a → P a) acts := by
  induction acts generalizing r with
  | nil => trivial
  | cons a acts ih =>
    refine ⟨fun longer => only a (lengthens_cases opened.sized longer), ?_⟩
    apply ih (opened.next a)
    have names : (r.next a).binding.eventNames = r.binding.eventNames :=
      (r.sameMake_perform a).eventNames
    rwa [names]

/-- Series of events and of scopes that have different names have one kind of writer each. -/
theorem Opened.oneWriter (opened : r.Opened leader size)
    (apart : ∀ name ∈ r.binding.eventNames,
      name ∉ Accumulator.scopeNames r.binding.eventNames)
    (name : String) (acts : List Act) : r.OneWriter name acts := by
  by_cases scopes : name ∈ Accumulator.scopeNames r.binding.eventNames
  · refine .inr (opened.along_lengthens ?_ acts)
    rintro a (⟨_, event⟩ | ⟨stop, _⟩)
    · exact absurd scopes (apart name event)
    · exact stop
  · refine .inl (opened.along_lengthens ?_ acts)
    rintro a (⟨round, _⟩ | ⟨_, named⟩)
    · exact round
    · exact absurd named scopes

/-! ## One series, two writers -/

/-- A scope, a stop and a round. -/
def scopeAndRound : List Act :=
  [.scopeStart 0 .known, .scopeStop 0 .known true, .stop, .collect 0]

/-- Without planned faults a group that is open can be read. -/
theorem Opened.exists_read (opened : r.Opened leader size) (faultless : r.host.Faultless) :
    ∃ snap, (r.binding.group.read r.host).1 = .ok snap := by
  have calm : (r.host.fire .reading (r.host.subjectOf leader)).1 = none := by
    rw [faultless.fire]
  obtain ⟨snap, read, _⟩ := opened.holds.delivers calm
  exact ⟨snap, read⟩

/-- A scope that is started and stopped leaves something to flush. -/
theorem Opened.level_scope (opened : r.Opened leader size) (faultless : r.host.Faultless)
    (fresh : r.binding.group.scope = {}) (level : ∃ length, r.binding.scopes.Level length) :
    ∃ length, (r.run [.scopeStart 0 .known, .scopeStop 0 .known true]).binding.scopes.Level
      (length + 1) := by
  obtain ⟨length, level⟩ := level
  let inside := r.next (.scopeStart 0 .known)
  have turn : r.binding.group.scope.check 0 false = .ok () := by
    rw [fresh]
    rfl
  obtain ⟨_, read⟩ := opened.exists_read faultless
  obtain ⟨start, starts⟩ := r.binding.scopeStart_of_read .known turn read
  have started : inside.binding = _ := starts
  have calm : inside.host.Faultless := r.binding.faultless_scopeStart faultless 0 .known
  have matched : inside.binding.maskFault? 0 .known = none := by
    rw [started]
    rfl
  have turn' : inside.binding.group.scope.check 0 true = .ok () := by
    rw [started]
    rfl
  obtain ⟨_, read'⟩ := (opened.next _).exists_read calm
  obtain ⟨stop, stops⟩ := inside.binding.scopeStop_of_read true matched turn' read'
  have stopped : (inside.next (.scopeStop 0 .known true)).binding.scopes =
      r.binding.scopes.record 0 true inside.binding.group.scope.start stop := by
    have kept : inside.binding.scopes = r.binding.scopes := by rw [started]
    rw [← kept]
    exact stops
  refine ⟨max length (Accumulator.slot 0 + 1) - 1, ?_⟩
  have long : max length (Accumulator.slot 0 + 1) - 1 + 1 =
      max length (Accumulator.slot 0 + 1) := by omega
  rw [run_cons, run_cons, run_nil, stopped, long]
  exact level.record ..

/-- An event with the name of a series of scopes has its series written in both ways. -/
theorem Opened.not_oneWriter (opened : r.Opened leader size) (faultless : r.host.Faultless)
    (fresh : r.binding.group.scope = {}) (level : ∃ length, r.binding.scopes.Level length)
    (event : name ∈ r.binding.eventNames)
    (scopes : name ∈ Accumulator.scopeNames r.binding.eventNames) :
    ¬r.OneWriter name scopeAndRound := by
  obtain ⟨length, filled⟩ := opened.level_scope faultless fresh level
  let before := [Act.scopeStart 0 .known, .scopeStop 0 .known true]
  let closed := r.run before
  have names : closed.binding.eventNames = r.binding.eventNames :=
    ((r.next _).sameMake_perform _).eventNames.trans (r.sameMake_perform _).eventNames
  have flushes : closed.Lengthens name .stop := by
    have grown : (closed.next .stop).binding.results.sizeAt name = _ :=
      Accumulator.sizeAt_flushInto filled (opened.run before).sized closed.binding.results name
    have listed : 0 < (Accumulator.scopeNames closed.binding.eventNames).count name := by
      rw [names]
      exact List.count_pos_iff.mpr scopes
    rw [Lengthens, grown]
    exact Nat.lt_add_of_pos_right (Nat.mul_pos listed (Nat.succ_pos length))
  have rounds : (closed.next .stop).Lengthens name (.collect 0) := by
    have grown : ((closed.next .stop).next (.collect 0)).binding.results.sizeAt name = _ :=
      (closed.next .stop).binding.sizeAt_collect 0 (closed.next .stop).host name
    have listed : 0 < (closed.next .stop).binding.eventNames.count name := by
      rw [show (closed.next .stop).binding.eventNames = _ from
        (closed.sameMake_perform .stop).eventNames, names]
      exact List.count_pos_iff.mpr event
    rw [Lengthens, grown]
    exact Nat.lt_add_of_pos_right listed
  rintro (⟨_, _, round, _⟩ | ⟨_, _, _, stop, _⟩)
  · exact round flushes
  · cases stop rounds

end Rig

end ScopeMeter

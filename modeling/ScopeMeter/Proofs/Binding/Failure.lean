import ScopeMeter.Proofs.Binding.Run
import ScopeMeter.Proofs.Host.Records

/-!
# Scope calls that fail

A scope call fails because of the mask, because of the tracker, or because the group cannot be read,
and each comes before anything is changed (`Rig.next_of_failed`).  What remains of the call is the
record of the read and the planned fault that it met.  The records do not matter to what comes
later (`Rig.Alike.run`), so the binding measures on as if the call had not been made
(`Rig.failed_scope`).

Which register a direct read of cycles takes depends on the width that a call is given.  This
machine has no direct reads, so the calls here have no width.
-/

namespace ScopeMeter

/-- The same outcomes but for the records of the machines. -/
structure Outcome.Alike {σ α : Type} (o o' : Outcome σ α) : Prop where
  result : o'.result = o.result
  next : o'.next = o.next
  host : o.host.Alike o'.host

/-! ## Groups on alike machines -/

namespace Group

variable {h h' : Host}

theorem alike_read (g : Group) (alike : h.Alike h') :
    (g.read h').1 = (g.read h).1 ∧ (g.read h).2.Alike (g.read h').2 := by
  unfold read
  cases g.leader? with
  | none => exact ⟨rfl, alike⟩
  | some leader =>
    obtain ⟨answer, after⟩ := alike.readGroup leader maxCounters
    dsimp only
    rcases raw : h.readGroup leader maxCounters with ⟨result, k⟩
    rcases raw' : h'.readGroup leader maxCounters with ⟨result', k'⟩
    rw [raw, raw'] at answer after
    cases answer
    cases result with
    | error fault => exact ⟨rfl, after⟩
    | ok read =>
      refine ⟨rfl, ?_⟩
      dsimp only
      split
      · exact after
      · exact after.note _

/-- A read uses up planned faults and is recorded; that is all it does to the machine. -/
theorem alike_after_read (g : Group) (h : Host) :
    Host.Alike { h with faults := (g.read h).2.faults } (g.read h).2 := by
  unfold read
  cases g.leader? with
  | none => exact .refl h
  | some leader =>
    have raw := h.alike_readGroup leader maxCounters
    dsimp only
    rcases eq : h.readGroup leader maxCounters with ⟨result, k⟩
    rw [eq] at raw
    cases result with
    | error fault => exact raw
    | ok read =>
      dsimp only
      split
      · exact raw
      · exact raw.trans (k.alike_note _)

theorem alike_controlAll (leader : Nat) (controls : List Control) (alike : h.Alike h') :
    (controlAll leader controls h').1 = (controlAll leader controls h).1 ∧
      (controlAll leader controls h).2.Alike (controlAll leader controls h').2 := by
  induction controls generalizing h h' with
  | nil => exact ⟨rfl, alike⟩
  | cons control controls ih =>
    obtain ⟨answer, after⟩ := alike.control control leader
    unfold controlAll
    rcases made : h.control control leader with ⟨result, k⟩
    rcases made' : h'.control control leader with ⟨result', k'⟩
    rw [made, made'] at answer after
    cases answer
    cases result with
    | error fault => exact ⟨rfl, after⟩
    | ok _ => exact ih after

theorem alike_start (g : Group) (alike : h.Alike h') :
    (g.start h').1 = (g.start h).1 ∧ (g.start h).2.Alike (g.start h').2 := by
  unfold start
  cases g.leader? with
  | none => exact ⟨rfl, alike⟩
  | some leader => exact alike_controlAll leader _ alike

theorem alike_stop (g : Group) (alike : h.Alike h') :
    (g.stop h').1 = (g.stop h).1 ∧ (g.stop h).2.Alike (g.stop h').2 := by
  unfold stop
  cases g.leader? with
  | none => exact ⟨rfl, alike⟩
  | some leader => exact alike_controlAll leader _ alike

theorem alike_collect (g : Group) (now : Int64) (alike : h.Alike h') :
    (g.collect now h).Alike (g.collect now h') := by
  obtain ⟨answer, after⟩ := g.alike_read alike
  unfold collect
  rcases read : g.read h with ⟨result, k⟩
  rcases read' : g.read h' with ⟨result', k'⟩
  rw [read, read'] at answer after
  cases answer
  cases result with
  | error e => exact ⟨rfl, rfl, after⟩
  | ok snap =>
    cases g.leader? with
    | none => exact ⟨rfl, rfl, after⟩
    | some leader =>
      obtain ⟨answer, zeroed⟩ := after.control .reset leader
      dsimp only
      rcases reset : k.control .reset leader with ⟨result, l⟩
      rcases reset' : k'.control .reset leader with ⟨result', l'⟩
      rw [reset, reset'] at answer zeroed
      cases answer
      cases result with
      | error fault => exact ⟨rfl, rfl, zeroed.note _⟩
      | ok _ => exact ⟨rfl, rfl, zeroed⟩

theorem alike_collectScope (g : Group) (id : UInt16) (isStop : Bool) (alike : h.Alike h') :
    (g.collectScope id isStop h).Alike (g.collectScope id isStop h') := by
  unfold collectScope
  cases g.scope.check id isStop with
  | error fault => exact ⟨rfl, rfl, alike⟩
  | ok _ =>
    obtain ⟨answer, after⟩ := g.alike_read alike
    dsimp only
    rcases read : g.read h with ⟨result, k⟩
    rcases read' : g.read h' with ⟨result', k'⟩
    rw [read, read'] at answer after
    cases answer
    cases result <;> exact ⟨rfl, rfl, after⟩

/-- A scope call on a group fails before anything else happens, or because of its read, and then
the read is all that happens. -/
theorem collectScope_of_failed {g : Group} {id : UInt16} {isStop : Bool} {e : Error}
    (failed : (g.collectScope id isStop h).result = .error e) :
    (g.collectScope id isStop h).next = g ∧
      ((∃ fault, e = .scope fault) ∧ (g.collectScope id isStop h).host = h ∨
        (g.read h).1 = .error e ∧ (g.collectScope id isStop h).host = (g.read h).2) := by
  unfold collectScope at failed ⊢
  cases checked : g.scope.check id isStop with
  | error fault =>
    rw [checked] at failed
    cases failed
    exact ⟨rfl, .inl ⟨⟨fault, rfl⟩, rfl⟩⟩
  | ok _ =>
    rw [checked] at failed
    rcases read : g.read h with ⟨result, k⟩
    rw [read] at failed
    cases result with
    | error e' =>
      cases failed
      exact ⟨rfl, .inr ⟨rfl, rfl⟩⟩
    | ok snap => cases failed

end Group

/-! ## Bindings on alike machines -/

namespace Binding

variable {h h' : Host}

theorem alike_stop (b : Binding) (alike : h.Alike h') : (b.stop h).Alike (b.stop h') := by
  obtain ⟨answer, after⟩ := b.group.alike_stop alike
  exact ⟨answer, rfl, after⟩

theorem alike_addClock (b : Binding) (alike : h.Alike h') :
    (b.addClock h').1 = (b.addClock h).1 ∧ (b.addClock h).2.Alike (b.addClock h').2 := by
  unfold addClock
  cases b.device with
  | cspmu device =>
    obtain ⟨same, after⟩ := alike.sampleClock
    dsimp only
    rcases sampled : h.sampleClock with ⟨sample, k⟩
    rcases sampled' : h'.sampleClock with ⟨sample', k'⟩
    rw [sampled, sampled'] at same after
    cases same
    cases sample with
    | none => exact ⟨rfl, after.note _⟩
    | some sample => exact ⟨rfl, after⟩
  | single => exact ⟨rfl, alike⟩
  | pmu device => exact ⟨rfl, alike⟩
  | interconnect => exact ⟨rfl, alike⟩

theorem alike_collect (b : Binding) (now : Int64) (alike : h.Alike h') :
    (b.collect now h).Alike (b.collect now h') := by
  obtain ⟨result, next, host⟩ := b.group.alike_collect now alike
  unfold collect
  dsimp only
  rw [result, next]
  obtain ⟨clocked, after⟩ := alike_addClock _ host
  exact ⟨rfl, clocked, after⟩

theorem alike_scopeStart (b : Binding) (id : UInt16) (mask : ScopeMask) (alike : h.Alike h') :
    (b.scopeStart id mask h).Alike (b.scopeStart id mask h') := by
  obtain ⟨result, next, host⟩ := b.group.alike_collectScope id false alike
  unfold scopeStart
  dsimp only
  rw [result, next]
  cases (b.group.collectScope id false h).result <;> exact ⟨rfl, rfl, host⟩

theorem alike_scopeStop (b : Binding) (id : UInt16) (mask : ScopeMask) (isOwn : Bool)
    (alike : h.Alike h') : (b.scopeStop id mask isOwn h).Alike (b.scopeStop id mask isOwn h') := by
  unfold scopeStop
  cases b.maskFault? id mask with
  | some fault => exact ⟨rfl, rfl, alike⟩
  | none =>
    obtain ⟨result, next, host⟩ := b.group.alike_collectScope id true alike
    dsimp only
    rw [result, next]
    cases (b.group.collectScope id true h).result with
    | error e => exact ⟨rfl, rfl, host⟩
    | ok snap => exact ⟨rfl, rfl, host.noteAll _⟩

/-- A scope start fails before anything else happens, or because of its read, and then the read is
all that happens. -/
theorem scopeStart_of_failed {b : Binding} {id : UInt16} {mask : ScopeMask} {e : Error}
    (failed : (b.scopeStart id mask h).result = .error e) :
    (b.scopeStart id mask h).next = b ∧
      ((∃ fault, e = .scope fault) ∧ (b.scopeStart id mask h).host = h ∨
        (b.group.read h).1 = .error e ∧ (b.scopeStart id mask h).host = (b.group.read h).2) := by
  have group : (b.group.collectScope id false h).result = .error e → _ :=
    Group.collectScope_of_failed
  unfold scopeStart at failed ⊢
  rcases eq : b.group.collectScope id false h with ⟨result, next, k⟩
  rw [eq] at failed group
  cases result with
  | error e' =>
    cases failed
    obtain ⟨same, causes⟩ := group rfl
    cases same
    exact ⟨rfl, causes⟩
  | ok snap => cases failed

/-- A scope stop fails before anything else happens, or because of its read, and then the read is
all that happens. -/
theorem scopeStop_of_failed {b : Binding} {id : UInt16} {mask : ScopeMask} {isOwn : Bool}
    {e : Error} (failed : (b.scopeStop id mask isOwn h).result = .error e) :
    (b.scopeStop id mask isOwn h).next = b ∧
      ((∃ fault, e = .scope fault) ∧ (b.scopeStop id mask isOwn h).host = h ∨
        (b.group.read h).1 = .error e ∧
          (b.scopeStop id mask isOwn h).host = (b.group.read h).2) := by
  have group : (b.group.collectScope id true h).result = .error e → _ :=
    Group.collectScope_of_failed
  unfold scopeStop at failed ⊢
  cases masks : b.maskFault? id mask with
  | some fault =>
    rw [masks] at failed
    cases failed
    exact ⟨rfl, .inl ⟨⟨fault, rfl⟩, rfl⟩⟩
  | none =>
    rw [masks] at failed
    rcases eq : b.group.collectScope id true h with ⟨result, next, k⟩
    rw [eq] at failed group
    cases result with
    | error e' =>
      cases failed
      obtain ⟨same, causes⟩ := group rfl
      cases same
      exact ⟨rfl, causes⟩
    | ok snap => cases failed

end Binding

/-! ## Runs on alike machines -/

namespace Rig

variable {r r' : Rig}

/-- The same rigs but for the records of their machines. -/
structure Alike (r r' : Rig) : Prop where
  binding : r'.binding = r.binding
  host : r.host.Alike r'.host

theorem Alike.perform (alike : r.Alike r') (a : Act) : (r.perform a).Alike (r'.perform a) := by
  obtain ⟨binding, host⟩ := alike
  unfold Rig.perform
  rw [binding]
  cases a with
  | start =>
    obtain ⟨answer, after⟩ := r.binding.group.alike_start host
    exact ⟨answer, rfl, after⟩
  | stop => exact r.binding.alike_stop host
  | collect now => exact r.binding.alike_collect now host
  | scopeStart id mask => exact r.binding.alike_scopeStart id mask host
  | scopeStop id mask isOwn => exact r.binding.alike_scopeStop id mask isOwn host
  | summarize => exact ⟨rfl, rfl, host⟩
  | clear => exact ⟨rfl, rfl, host⟩
  | outside stimulus => exact ⟨rfl, rfl, host.meet stimulus⟩

theorem Alike.next (alike : r.Alike r') (a : Act) : (r.next a).Alike (r'.next a) :=
  ⟨(alike.perform a).next, (alike.perform a).host⟩

theorem Alike.run (alike : r.Alike r') (acts : List Act) : (r.run acts).Alike (r'.run acts) := by
  induction acts generalizing r r' with
  | nil => exact alike
  | cons a acts ih => exact ih (alike.next a)

/-! ## Scope calls that fail -/

def Act.isScope : Act → Bool
  | .scopeStart .. | .scopeStop .. => true
  | _ => false

/-- The rig as it would be if the act had not been made, but for the faults in store, which are
those that the act leaves. -/
def without (r : Rig) (a : Act) : Rig :=
  ⟨r.binding, { r.host with faults := (r.next a).host.faults }⟩

variable {a : Act} {e : Error}

/-- A scope call fails before anything else happens, or because of its read, and then the read is
all that happens. -/
theorem next_of_failed (scope : a.isScope) (failed : r.answer a = .error e) :
    (∃ fault, e = .scope fault) ∧ r.next a = r ∨
      (r.binding.group.read r.host).1 = .error e ∧
        r.next a = ⟨r.binding, (r.binding.group.read r.host).2⟩ := by
  obtain ⟨same, causes⟩ : (r.perform a).next = r.binding ∧
      ((∃ fault, e = .scope fault) ∧ (r.perform a).host = r.host ∨
        (r.binding.group.read r.host).1 = .error e ∧
          (r.perform a).host = (r.binding.group.read r.host).2) := by
    cases a with
    | scopeStart id mask => exact Binding.scopeStart_of_failed failed
    | scopeStop id mask isOwn => exact Binding.scopeStop_of_failed failed
    | start | stop | collect _ | summarize | clear | outside _ => cases scope
  unfold Rig.next
  rw [same]
  rcases causes with ⟨fault, host⟩ | ⟨read, host⟩
  · exact .inl ⟨fault, by rw [host]⟩
  · exact .inr ⟨read, by rw [host]⟩

/-- A scope call that fails leaves the rig as it would be without the call. -/
theorem alike_without (scope : a.isScope) (failed : r.answer a = .error e) :
    (r.without a).Alike (r.next a) := by
  unfold without
  rcases next_of_failed scope failed with ⟨_, same⟩ | ⟨_, read⟩
  · rw [same]
    exact ⟨rfl, .refl _⟩
  · rw [read]
    exact ⟨rfl, r.binding.group.alike_after_read r.host⟩

/-- A scope call that fails changes neither the binding nor any counter, and a call out of turn
does not touch the machine at all.  So whatever is done later, it measures the same and is answered
the same as if the call had not been made. -/
theorem failed_scope (scope : a.isScope) (failed : r.answer a = .error e) :
    (r.next a).binding = r.binding ∧ (r.next a).host.counters = r.host.counters ∧
      (∀ fault, e = .scope fault → r.next a = r) ∧
      ∀ later,
        let failing := (r.next a).run later
        let spared := (r.without a).run later
        failing.binding = spared.binding ∧ failing.host.counters = spared.host.counters ∧
          ∀ act, failing.answer act = spared.answer act := by
  have alike := alike_without scope failed
  refine ⟨alike.binding, alike.host.counters, ?_, ?_⟩
  · rintro fault rfl
    rcases next_of_failed scope failed with ⟨_, same⟩ | ⟨read, _⟩
    · exact same
    · exact absurd read (r.binding.group.read_ne_scope r.host fault)
  · intro later failing spared
    have after : spared.Alike failing := alike.run later
    exact ⟨after.binding, after.host.counters, fun act => (after.perform act).result⟩

/-- A scope that a collection fell into, on a machine whose next two reads fail: one by a number of
the kernel, one because it is cut. -/
def sampleOpenScope : Rig :=
  (opening sampleThread sampleEvents
    { faults := [{ call := .reading, skip := 2, effect := .fail 5 },
        { call := .reading, skip := 2, effect := .distort (some 7) none }] }).run
    [.start, .scopeStart 1 ⟨1⟩, .outside (.tick 7 none [5, 2]), .collect 100,
      .outside (.tick 7 none [3, 1])]

/-- The scope calls that fail there. -/
def sampleMisfits : List (Act × Error) :=
  [(.scopeStart 2 ⟨1⟩, .scope (.nestedStart 2 1)), (.scopeStop 2 ⟨1⟩ true, .scope (.otherOpen 2 1)),
    (.scopeStop 1 ⟨2⟩ true, .scope (.otherMask 1 ⟨2⟩ ⟨1⟩)),
    (.scopeStop 1 ⟨1⟩ true, .call (.readFailed 1000 5))]

theorem failed_scope_sampleMisfits :
    (∀ m ∈ sampleMisfits, m.1.isScope ∧ sampleOpenScope.answer m.1 = .error m.2 ∧
      (sampleOpenScope.next m.1).binding = sampleOpenScope.binding) ∧
    let last := Act.scopeStop 1 ⟨1⟩ true
    let failing := (sampleOpenScope.next last).run [last, last]
    let spared := (sampleOpenScope.without last).run [last, last]
    failing.binding = spared.binding ∧ failing.binding.scopes.sums = [[0, 8], [0, 3]] := by
  have misfits : ∀ m ∈ sampleMisfits, m.1.isScope ∧ sampleOpenScope.answer m.1 = .error m.2 := by
    decide +kernel
  refine ⟨?_, ?_⟩
  · intro m member
    obtain ⟨scope, failed⟩ := misfits m member
    exact ⟨scope, failed, (failed_scope scope failed).1⟩
  · intro last failing spared
    have failed : sampleOpenScope.answer last = .error (.call (.readFailed 1000 5)) := by
      decide +kernel
    have same := (failed_scope (a := last) rfl failed).2.2.2 [last, last]
    exact ⟨same.1, by decide +kernel⟩

end Rig

end ScopeMeter

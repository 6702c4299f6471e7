import Mathlib.Data.List.Forall2
import ScopeMeter.Collector.Basic
import ScopeMeter.Proofs.Binding

/-!
# Sweeps over bindings

A sweep performs an operation on one binding after the other.  When the operation is about its own
counters only (`IsLocal`) and the groups have different leaders, a sweep is to each binding what
the operation alone would be: neither the bindings before it nor those behind it touch its counts
(`IsLocal.sweep_at`).
-/

namespace ScopeMeter

namespace Collector

variable {op : Binding → Host → Outcome Binding (Except Error Unit)}
  {notice : Binding → Error → Notice} {b : Binding} {bs : List Binding} {h : Host}

/-- The machine after the operation on one binding, with the failure noted. -/
def stepHost (op : Binding → Host → Outcome Binding (Except Error Unit))
    (notice : Binding → Error → Notice) (b : Binding) (h : Host) : Host :=
  match (op b h).result with
  | .ok () => (op b h).host
  | .error e => (op b h).host.note (notice (op b h).next e)

theorem unchanged_stepHost (b : Binding) (h : Host) :
    (op b h).host.Unchanged (stepHost op notice b h) := by
  unfold stepHost
  split
  · exact .refl _
  · exact Host.unchanged_note ..

theorem sweep_cons (b : Binding) (bs : List Binding) (h : Host) :
    sweep op notice (b :: bs) h =
      ⟨(op b h).result.isOk && (sweep op notice bs (stepHost op notice b h)).result,
        (op b h).next :: (sweep op notice bs (stepHost op notice b h)).next,
        (sweep op notice bs (stepHost op notice b h)).host⟩ := by
  unfold stepHost
  rw [sweep]
  cases (op b h).result <;> rfl

/-- Each binding becomes what the operation makes of it on some machine. -/
theorem sweep_forall₂ (bs : List Binding) (h : Host) :
    List.Forall₂ (fun b b' => ∃ h, b' = (op b h).next) bs (sweep op notice bs h).next := by
  induction bs generalizing h with
  | nil => exact .nil
  | cons b bs ih =>
    rw [sweep_cons]
    exact .cons ⟨h, rfl⟩ (ih _)

/-- The machine at the turn of the binding at a position of a sweep. -/
def hostAt (op : Binding → Host → Outcome Binding (Except Error Unit))
    (notice : Binding → Error → Notice) (bs : List Binding) (h : Host) (k : Nat) : Host :=
  (sweep op notice (bs.take k) h).host

theorem sweep_getElem? {k : Nat} (bound : bs[k]? = some b) :
    (sweep op notice bs h).next[k]? = some (op b (hostAt op notice bs h k)).next := by
  induction bs generalizing h k with
  | nil => cases bound
  | cons b' bs ih =>
    unfold hostAt
    rw [sweep_cons]
    cases k with
    | zero =>
      cases bound
      rfl
    | succ k =>
      rw [List.getElem?_cons_succ] at bound ⊢
      rw [List.take_succ_cons, sweep_cons]
      exact ih bound

/-- A binding behind a sweep is what the operation made of the one at its position. -/
theorem exists_of_sweep_getElem? {k : Nat} {b' : Binding}
    (bound : (sweep op notice bs h).next[k]? = some b') :
    ∃ b, bs[k]? = some b ∧ b' = (op b (hostAt op notice bs h k)).next := by
  have inside := (List.getElem?_eq_some_iff.mp bound).1
  rw [← (sweep_forall₂ bs h).length_eq] at inside
  have old := List.getElem?_eq_getElem inside
  refine ⟨bs[k], old, ?_⟩
  rw [sweep_getElem? old] at bound
  exact (Option.some.inj bound).symm

theorem exists_of_mem_right {α β : Type} {R : α → β → Prop} {as : List α} {bs : List β}
    (related : List.Forall₂ R as bs) {b : β} (member : b ∈ bs) : ∃ a ∈ as, R a b := by
  induction related with
  | nil => cases member
  | cons head _ ih =>
    rcases List.mem_cons.1 member with rfl | member
    · exact ⟨_, List.mem_cons_self, head⟩
    · obtain ⟨a, mem, related⟩ := ih member
      exact ⟨a, List.mem_cons_of_mem _ mem, related⟩

theorem exists_of_getElem?_right {R : Binding → Binding → Prop} {bs bs' : List Binding}
    (related : List.Forall₂ R bs bs') {k : Nat} {b' : Binding} (bound : bs'[k]? = some b') :
    ∃ b, bs[k]? = some b ∧ R b b' := by
  induction related generalizing k with
  | nil => cases bound
  | @cons b _ _ _ head _ ih =>
    cases k with
    | zero =>
      cases bound
      exact ⟨b, rfl, head⟩
    | succ k => exact ih bound

/-! ## Local operations -/

/-- The operation keeps what bindings are made of and which counters there are, and touches the
counts of its own group only. -/
structure IsLocal (op : Binding → Host → Outcome Binding (Except Error Unit)) : Prop where
  make : ∀ (b : Binding) h, b.SameMake (op b h).next
  counters : ∀ b (h : Host), h.SameCounters (op b h).host
  apart : ∀ (b : Binding) (h : Host) other, b.group.leader? ≠ some other →
    ∀ i, (op b h).host.count other i = h.count other i

theorem IsLocal.sameMake_sweep (isLocal : IsLocal op) (bs : List Binding) (h : Host) :
    List.Forall₂ Binding.SameMake bs (sweep op notice bs h).next := by
  apply (sweep_forall₂ bs h).imp
  rintro b _ ⟨h, rfl⟩
  exact isLocal.make b h

theorem IsLocal.sameCounters_step (isLocal : IsLocal op) (b : Binding) (h : Host) :
    h.SameCounters (stepHost op notice b h) :=
  (isLocal.counters b h).trans (unchanged_stepHost b h).same

theorem IsLocal.sameCounters_sweep (isLocal : IsLocal op) (notice : Binding → Error → Notice)
    (bs : List Binding) (h : Host) :
    h.SameCounters (sweep op notice bs h).host := by
  induction bs generalizing h with
  | nil => exact .refl h
  | cons b bs ih =>
    rw [sweep_cons]
    exact (isLocal.sameCounters_step b h).trans (ih _)

/-- A sweep over other groups leaves the counts of a group. -/
theorem IsLocal.count_sweep (isLocal : IsLocal op) {leader : Nat}
    (apart : some leader ∉ bs.map (·.group.leader?)) (h : Host) (i : Nat) :
    (sweep op notice bs h).host.count leader i = h.count leader i := by
  induction bs generalizing h with
  | nil => rfl
  | cons b bs ih =>
    rw [List.map_cons, List.mem_cons, not_or] at apart
    rw [sweep_cons]
    dsimp only
    rw [ih apart.2, (unchanged_stepHost b h).count]
    exact isLocal.apart b h leader (Ne.symm apart.1) i

/-- To the binding at a position a sweep is the operation on a machine with the counts of its group
as they were, and leaves them as the operation does. -/
theorem IsLocal.sweep_at (isLocal : IsLocal op) (notice : Binding → Error → Notice)
    (distinct : (bs.map (·.group.leader?)).Nodup)
    {k leader : Nat} (bound : bs[k]? = some b) (leads : b.group.leader? = some leader)
    (h : Host) :
    h.SameCounters (hostAt op notice bs h k) ∧
      (∀ i, (hostAt op notice bs h k).count leader i = h.count leader i) ∧
      ∀ i, (sweep op notice bs h).host.count leader i =
        (op b (hostAt op notice bs h k)).host.count leader i := by
  refine ⟨isLocal.sameCounters_sweep .., ?_⟩
  induction bs generalizing h k with
  | nil => cases bound
  | cons b' bs ih =>
    rw [List.map_cons, List.nodup_cons] at distinct
    unfold hostAt
    cases k with
    | zero =>
      cases bound
      rw [leads] at distinct
      rw [List.take_zero, sweep_cons]
      refine ⟨fun i => rfl, ?_⟩
      intro i
      exact (isLocal.count_sweep distinct.1 _ i).trans ((unchanged_stepHost b h).count leader i)
    | succ k =>
      rw [List.getElem?_cons_succ] at bound
      have other : b'.group.leader? ≠ some leader := by
        intro same
        rw [same, ← leads] at distinct
        exact distinct.1 (List.mem_map_of_mem (List.mem_of_getElem? bound))
      obtain ⟨before, after⟩ := ih distinct.2 bound (stepHost op notice b' h)
      rw [List.take_succ_cons, sweep_cons, sweep_cons]
      refine ⟨?_, after⟩
      intro i
      exact (before i).trans (((unchanged_stepHost b' h).count leader i).trans
        (isLocal.apart b' h leader other i))

/-! ## Which operations are local -/

theorem isLocal_collect (now : Int64) : IsLocal fun b => b.collect now where
  make b h := b.sameMake_collect now h
  counters b h := b.sameCounters_collect now h
  apart b h _ apart i := by
    obtain ⟨_, unchanged, _⟩ := b.collect_eq now h
    rw [unchanged.count]
    exact b.group.count_collect_of_ne now h apart i

theorem isLocal_stop : IsLocal Binding.stop where
  make b h := b.sameMake_stop h
  counters b h := b.sameCounters_stop h
  apart b h _ apart i := b.group.count_stop_of_ne h apart i

/-- A scope call reaches a binding or not; no counter changes. -/
theorem scopeStep_cases (call : ScopeCall) (id : UInt16) (mask : ScopeMask) (tid : Int32)
    (b : Binding) (h : Host) :
    h.Unchanged (scopeStep call id mask tid b h).host ∧
      b.SameMake (scopeStep call id mask tid b h).next ∧
      (scopeStep call id mask tid b h).next.results = b.results := by
  unfold scopeStep
  split
  · exact ⟨.refl h, .refl b, rfl⟩
  next isOwn _ =>
    cases call with
    | start =>
      obtain ⟨unchanged, cases⟩ := b.scopeStart_cases id mask h
      refine ⟨unchanged, b.sameMake_scopeStart id mask h, ?_⟩
      rcases cases with ⟨_, _, next⟩ | ⟨_, _, _, _, next⟩
      · rw [next]
      · rw [next]
    | stop =>
      obtain ⟨unchanged, cases⟩ := b.scopeStop_cases id mask isOwn h
      refine ⟨unchanged, b.sameMake_scopeStop id mask isOwn h, ?_⟩
      rcases cases with ⟨_, _, next⟩ | ⟨_, _, _, _, _, next⟩
      · rw [next]
      · rw [next]

theorem isLocal_scopeStep (call : ScopeCall) (id : UInt16) (mask : ScopeMask) (tid : Int32) :
    IsLocal (scopeStep call id mask tid) where
  make b h := (scopeStep_cases call id mask tid b h).2.1
  counters b h := (scopeStep_cases call id mask tid b h).1.same
  apart b h _ _ i := (scopeStep_cases call id mask tid b h).1.count _ i

/-! ## Starting all bindings -/

/-- A start changes no binding, except that those started before one that fails are stopped. -/
theorem startAll_forall₂ (started bs : List Binding) (h : Host) :
    List.Forall₂ (fun b b' => b' = b ∨ ∃ h, b' = (b.stop h).next) (started ++ bs)
      (startAll started bs h).next := by
  have kept : ∀ bs : List Binding,
      List.Forall₂ (fun b b' => b' = b ∨ ∃ h, b' = (b.stop h).next) bs bs := by
    intro bs
    exact List.forall₂_same.2 fun _ _ => .inl rfl
  induction bs generalizing started h with
  | nil =>
    rw [List.append_nil]
    exact kept started
  | cons b bs ih =>
    unfold startAll
    split
    next h' _ =>
      have rest := ih (started ++ [b]) h'
      rwa [List.append_assoc, List.singleton_append] at rest
    next e h' _ =>
      exact List.rel_append ((sweep_forall₂ started _).imp fun _ _ => .inr) (kept (b :: bs))

theorem sameMake_startAll (started bs : List Binding) (h : Host) :
    List.Forall₂ Binding.SameMake (started ++ bs) (startAll started bs h).next := by
  apply (startAll_forall₂ started bs h).imp
  intro b b' become
  rcases become with rfl | ⟨h, rfl⟩
  · exact .refl _
  · exact b.sameMake_stop h

theorem sameCounters_startAll (started bs : List Binding) (h : Host) :
    h.SameCounters (startAll started bs h).host := by
  induction bs generalizing started h with
  | nil => exact .refl h
  | cons b bs ih =>
    have same : h.SameCounters (b.start h).2 := b.group.sameCounters_start h
    unfold startAll
    split
    next h' eq =>
      rw [eq] at same
      exact same.trans (ih _ h')
    next e h' eq =>
      rw [eq] at same
      exact (same.trans (Host.unchanged_note ..).same).trans
        (isLocal_stop.sameCounters_sweep _ started _)

/-- When all bindings could be started none has changed, and their counters stand at zero. -/
theorem startAll_ok {started bs : List Binding} {h : Host} (ok : (startAll started bs h).result)
    (distinct : (bs.map (·.group.leader?)).Nodup) :
    (startAll started bs h).next = started ++ bs ∧
      (∀ leader, some leader ∈ bs.map (·.group.leader?) →
        ∀ i, (startAll started bs h).host.count leader i = 0) ∧
      ∀ leader, some leader ∉ bs.map (·.group.leader?) →
        ∀ i, (startAll started bs h).host.count leader i = h.count leader i := by
  induction bs generalizing started h with
  | nil =>
    rw [List.append_nil]
    exact ⟨rfl, fun _ => nofun, fun _ _ _ => rfl⟩
  | cons b bs ih =>
    rw [List.map_cons, List.nodup_cons] at distinct
    have zeroed := fun leader (leads : b.group.leader? = some leader) =>
      Group.count_start (h := h) leads
    have apart := fun leader (other : b.group.leader? ≠ some leader) =>
      b.group.count_start_of_ne h other
    rcases eq : b.start h with ⟨result, h'⟩
    have begun : b.group.start h = (result, h') := eq
    rw [begun] at zeroed apart
    simp only [startAll, eq] at ok ⊢
    cases result with
    | error e => cases ok
    | ok _ =>
      dsimp only at ok ⊢
      obtain ⟨next, counts, others⟩ := ih ok distinct.2
      refine ⟨?_, ?_, ?_⟩
      · rw [next, List.append_assoc, List.singleton_append]
      · intro leader member i
        rw [List.map_cons, List.mem_cons] at member
        rcases member with leads | member
        · have absent := distinct.1
          rw [← leads] at absent
          exact (others leader absent i).trans (zeroed leader leads.symm rfl i)
        · exact counts leader member i
      · intro leader absent i
        rw [List.map_cons, List.mem_cons, not_or] at absent
        exact (others leader absent.2 i).trans (apart leader (Ne.symm absent.1) i)

end Collector

end ScopeMeter

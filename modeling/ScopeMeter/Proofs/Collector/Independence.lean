import Mathlib.Data.List.Nodup
import ScopeMeter.Proofs.Binding.Invocations
import ScopeMeter.Proofs.Binding.Machine

/-!
# Threads do not disturb each other

Threads start and stop scopes while they run, and no order among them is fixed.  As long as no
planned fault is left, what a thread is answered and what becomes of its bindings is told by its
own steps alone (`Engine.standing_run`, `Engine.answersTo_eq`): a step of another thread neither
reaches its bindings nor lets their counters advance (`Engine.effect_of_apart`).  So all
schedules in which each thread takes the same steps in the same order end alike
(`Engine.threads_independent`).
-/

namespace ScopeMeter

/-- A step of a thread: it calls a scope, or it runs for a while. -/
inductive ThreadStep
  | scope (call : ScopeCall) (id : UInt16) (mask : ScopeMask)
  | tick (type : Option UInt32) (amounts : List UInt64)
  deriving DecidableEq

namespace ThreadStep

/-- A call is for bindings of threads only. -/
def ForThreads : ThreadStep → Prop
  | .scope _ _ mask => ScopeMask.allThreads.contains mask
  | .tick .. => True

def act (tid : Int32) : ThreadStep → Engine.Act
  | .scope call id mask => .scope call id mask tid
  | .tick type amounts => .outside (.tick tid type amounts)

/-- What a step makes of a binding and its own machine. -/
def effect (tid : Int32) : ThreadStep → Binding × Host → Binding × Host
  | .scope call id mask, s => ((Collector.scopeStep call id mask tid s.1 s.2).next, s.2)
  | .tick type amounts, s => (s.1, s.2.tick tid type amounts)

/-- Whether a binding has nothing against a step. -/
def accepts (tid : Int32) : ThreadStep → Binding × Host → Bool
  | .scope call id mask, s => (Collector.scopeStep call id mask tid s.1 s.2).result.isOk
  | .tick .., _ => true

instance (step : ThreadStep) : Decidable step.ForThreads :=
  match step with
  | .scope _ _ mask => inferInstanceAs (Decidable (ScopeMask.allThreads.contains mask = true))
  | .tick .. => isTrue trivial

end ThreadStep

theorem ThreadStep.boundTid_effect (step : ThreadStep) (tid : Int32) (s : Binding × Host) :
    (step.effect tid s).1.boundTid = s.1.boundTid := by
  cases step with
  | scope call id mask => exact Binding.boundTid_of_spec (s.1.spec_scopeStep call id mask tid s.2)
  | tick type amounts => rfl

/-- Steps of threads in the order in which they happen. -/
abbrev Schedule := List (Int32 × ThreadStep)

namespace Schedule

/-- The steps of one thread in their order. -/
def of (tid : Int32) (xs : Schedule) : List ThreadStep :=
  (xs.filter fun x => x.1 = tid).map (·.2)

def acts (xs : Schedule) : List Engine.Act := xs.map fun x => x.2.act x.1

/-- The steps are taken by threads, which have no negative number, and call no binding of a whole
device. -/
def OfThreads (xs : Schedule) : Prop := ∀ x ∈ xs, 0 ≤ x.1 ∧ x.2.ForThreads

instance (xs : Schedule) : Decidable xs.OfThreads :=
  inferInstanceAs (Decidable (∀ x ∈ xs, 0 ≤ x.1 ∧ x.2.ForThreads))

theorem of_cons_self (tid : Int32) (step : ThreadStep) (xs : Schedule) :
    of tid ((tid, step) :: xs) = step :: of tid xs := by
  rw [of, List.filter_cons_of_pos (by simp), List.map_cons, of]

theorem of_cons_of_ne {tid other : Int32} (apart : other ≠ tid) (step : ThreadStep)
    (xs : Schedule) : of tid ((other, step) :: xs) = of tid xs := by
  rw [of, List.filter_cons_of_neg (by simpa using apart), of]

theorem mem_of_iff {tid : Int32} {step : ThreadStep} {xs : Schedule} :
    step ∈ of tid xs ↔ (tid, step) ∈ xs := by
  simp [of]

/-- What becomes of a binding and its own machine when nothing happens but the steps of its own
thread. -/
def alone (xs : Schedule) (s : Binding × Host) : Binding × Host :=
  match s.1.boundTid with
  | some tid => (of tid xs).foldl (fun s step => step.effect tid s) s
  | none => s

theorem alone_nil (s : Binding × Host) : alone [] s = s := by
  unfold alone
  split <;> rfl

theorem alone_cons_self {tid : Int32} {s : Binding × Host} (own : s.1.boundTid = some tid)
    (step : ThreadStep) (xs : Schedule) :
    alone ((tid, step) :: xs) s = alone xs (step.effect tid s) := by
  simp only [alone, own, step.boundTid_effect, of_cons_self, List.foldl_cons]

theorem alone_cons_of_ne {tid : Int32} {s : Binding × Host} (apart : s.1.boundTid ≠ some tid)
    (step : ThreadStep) (xs : Schedule) : alone ((tid, step) :: xs) s = alone xs s := by
  unfold alone
  cases follows : s.1.boundTid with
  | none => rfl
  | some own =>
    have other : tid ≠ own := fun same => apart (by rw [follows, same])
    dsimp only
    rw [of_cons_of_ne other]

/-- Schedules with the same steps of each thread are both taken by threads, or neither is. -/
theorem OfThreads.of_same {xs ys : Schedule} (threads : OfThreads xs)
    (same : ∀ tid, of tid xs = of tid ys) : OfThreads ys := by
  rintro ⟨tid, step⟩ listed
  have listed : step ∈ of tid ys := mem_of_iff.mpr listed
  rw [← same tid] at listed
  exact threads _ (mem_of_iff.mp listed)

end Schedule

/-! ## Steps of other threads -/

/-- No role of a unit of the whole machine is among those of threads. -/
theorem ScopeMask.intersects_of_threads {mask : ScopeMask} (within : allThreads.contains mask)
    {role : Role} (unit : role = .cspmu ∨ role = .interconnect) :
    mask.intersects (.ofRole role) = false := by
  have low : 3 &&& mask.bits = mask.bits := of_decide_eq_true within
  have apart : ∀ bits : UInt32, 3 &&& bits = 0 → mask.bits &&& bits = 0 := by
    intro bits none
    rw [← low, UInt32.and_comm 3, UInt32.and_assoc, none, UInt32.and_zero]
  unfold intersects
  rcases unit with rfl | rfl
  · rw [ofRole, apart 8 rfl]
    rfl
  · rw [ofRole, apart 4 rfl]
    rfl

namespace Engine

variable {e : Engine} {h : Host} {b : Binding} {tid : Int32}

/-- A call for threads reaches only bindings of the calling thread. -/
theorem Planned.route_of_apart (planned : e.Planned) (member : b ∈ e.bindings)
    (apart : b.boundTid ≠ some tid) {mask : ScopeMask}
    (within : ScopeMask.allThreads.contains mask) : b.route mask tid = none := by
  unfold Binding.route routeScope
  rcases planned.role member with ⟨_, ⟨own, follows⟩, _⟩ | ⟨_, _, unit⟩
  · rw [follows] at apart ⊢
    dsimp only
    rw [if_neg fun same => apart (congrArg some same)]
    split <;> rfl
  · rw [ScopeMask.intersects_of_threads within unit]
    rfl

/-- The counters of a binding follow its thread; those of a device follow none. -/
theorem Laid.tid_machine (laid : e.Laid) (member : b ∈ e.bindings) :
    ∀ c ∈ (b.machine e.host).counters, c.tid = b.boundTid.getD (-1) := by
  intro c own
  obtain ⟨live, leads⟩ := List.mem_filter.mp own
  have leads : b.group.leader? = some c.leader := of_decide_eq_true leads
  have listed : c.identity ∈ e.host.identities := List.mem_map_of_mem live
  rw [laid.layout] at listed
  obtain ⟨b', member', listed⟩ := List.mem_flatMap.mp listed
  obtain ⟨_, _, same⟩ := List.mem_map.mp listed
  obtain ⟨_, leader, holds⟩ := laid.valid.owned.holds b' member'
  have leads' : b'.group.leader?.getD 0 = c.leader := congrArg LiveCounter.leader same
  rw [holds.opened, Option.getD_some] at leads'
  have follows : b'.boundTid.getD (-1) = c.tid := congrArg LiveCounter.tid same
  rw [leads'] at holds
  have is : b' = b := List.inj_on_of_nodup_map laid.valid.owned.apart member' member
    (holds.opened.trans leads.symm)
  rw [← follows, is]

/-- Rounds and scopes are taken, and the machine plans no fault. -/
structure Undisturbed (e : Engine) : Prop where
  laid : e.Laid
  planned : e.Planned
  collecting : e.collector.collecting = true
  faultless : e.host.Faultless

/-- A step for threads leaves the bindings of other threads and those of whole devices, and their
counters. -/
theorem Undisturbed.effect_of_apart (undisturbed : e.Undisturbed) (member : b ∈ e.bindings)
    (apart : b.boundTid ≠ some tid) (thread : 0 ≤ tid) {step : ThreadStep}
    (within : step.ForThreads) :
    step.effect tid (b, b.machine e.host) = (b, b.machine e.host) := by
  cases step with
  | scope call id mask =>
    have passed := undisturbed.planned.route_of_apart member apart within
    simp only [ThreadStep.effect, Collector.scopeStep, passed]
  | tick type amounts =>
    have others : ∀ c ∈ (b.machine e.host).counters, c.tid ≠ tid := by
      intro c own
      rw [undisturbed.laid.tid_machine member c own]
      cases follows : b.boundTid with
      | some own => exact fun same => apart (by rw [follows, ← same, Option.getD_some])
      | none =>
        rintro rfl
        exact absurd thread (by decide)
    rw [ThreadStep.effect, Host.tick_of_apart others]

theorem Undisturbed.accepts_of_apart (undisturbed : e.Undisturbed) (member : b ∈ e.bindings)
    (apart : b.boundTid ≠ some tid) {step : ThreadStep} (within : step.ForThreads) :
    step.accepts tid (b, b.machine e.host) = true := by
  cases step with
  | scope call id mask =>
    have passed := undisturbed.planned.route_of_apart member apart within
    simp only [ThreadStep.accepts, Collector.scopeStep, passed]
    rfl
  | tick type amounts => rfl

/-! ## A step as seen by every binding -/

/-- The bindings, each with the counters of its own. -/
def standing (e : Engine) : List (Binding × Host) := e.bindings.map fun b => (b, b.machine e.host)

theorem map_fst_standing (e : Engine) : e.standing.map Prod.fst = e.bindings := by
  rw [standing, List.map_map]
  exact List.map_id _

/-- A step of a thread is to each binding what the binding and its own counters make of it, and so
is the answer. -/
theorem Undisturbed.next (undisturbed : e.Undisturbed) (tid : Int32) (step : ThreadStep) :
    (e.next (step.act tid)).Undisturbed ∧
      (e.next (step.act tid)).standing = e.standing.map (step.effect tid) ∧
      e.answer (step.act tid) = e.standing.all (step.accepts tid) := by
  obtain ⟨laid, planned, collecting, faultless⟩ := undisturbed
  have laid' := laid.next (step.act tid)
  have planned' := planned.next (step.act tid)
  cases step with
  | scope call id mask =>
    obtain ⟨result, next, unchanged, still⟩ := Collector.sweep_scope faultless call id mask tid
      (fun b e => .scopeFailed call id b.name b.device.label e) e.bindings
    have become := e.next_scope call id mask tid
    dsimp only at become
    rw [if_pos collecting] at become
    rw [ThreadStep.act] at laid' planned' ⊢
    refine ⟨⟨laid', planned', ?_, ?_⟩, ?_, ?_⟩
    · rw [become]
      exact collecting
    · rw [become]
      exact still
    · rw [become, standing, standing, List.map_map]
      simp only [bindings] at next ⊢
      rw [next, List.map_map]
      apply List.map_congr_left
      intro b member
      have make := (Collector.scopeStep_cases call id mask tid b (b.machine e.host)).2.1
      have leader : (Collector.scopeStep call id mask tid b (b.machine e.host)).next.group.leader? =
          b.group.leader? := by
        rw [Group.leader?, make.members, Group.leader?]
      exact Prod.ext rfl (Binding.machine_congr leader unchanged.counters)
    · have answered : e.answer (.scope call id mask tid) =
          (Collector.sweep (Collector.scopeStep call id mask tid)
            (fun b e => .scopeFailed call id b.name b.device.label e) e.bindings e.host).result := by
        simp only [answer, perform, Collector.scope, if_pos collecting]
        rfl
      rw [answered, result, standing, List.all_map]
      rfl
  | tick type amounts =>
    refine ⟨⟨laid', planned', collecting, faultless⟩, ?_, ?_⟩
    · rw [standing, standing, List.map_map]
      apply List.map_congr_left
      intro b member
      exact Prod.ext rfl (b.machine_tick e.host tid type amounts)
    · exact (List.all_eq_true.mpr fun _ _ => rfl).symm

/-! ## Schedules -/

/-- Every binding ends as the steps of its own thread alone make it. -/
theorem Undisturbed.standing_run (undisturbed : e.Undisturbed) {xs : Schedule}
    (threads : xs.OfThreads) : (e.run xs.acts).standing = e.standing.map xs.alone := by
  induction xs generalizing e with
  | nil =>
    rw [List.map_congr_left fun s _ => Schedule.alone_nil s, List.map_id']
    rfl
  | cons x xs ih =>
    obtain ⟨tid, step⟩ := x
    obtain ⟨⟨thread, within⟩, threads⟩ := List.forall_mem_cons.mp threads
    obtain ⟨undisturbed', stepped, _⟩ := undisturbed.next tid step
    have rest := ih undisturbed' threads
    rw [stepped, List.map_map] at rest
    refine rest.trans (List.map_congr_left ?_)
    intro s listed
    obtain ⟨b, member, rfl⟩ := List.mem_map.mp listed
    rw [Function.comp_apply]
    by_cases own : b.boundTid = some tid
    · rw [Schedule.alone_cons_self own]
    · rw [undisturbed.effect_of_apart member own thread within, Schedule.alone_cons_of_ne own]

/-- What the steps of one thread are answered in the course of a schedule. -/
def answersTo (tid : Int32) : Engine → Schedule → List Bool
  | _, [] => []
  | e, (caller, step) :: xs =>
    let rest := answersTo tid (e.next (step.act caller)) xs
    if caller = tid then e.answer (step.act caller) :: rest else rest

/-- What the steps of a thread are answered when nothing else happens. -/
def replies (tid : Int32) : List (Binding × Host) → List ThreadStep → List Bool
  | _, [] => []
  | ss, step :: steps => ss.all (step.accepts tid) :: replies tid (ss.map (step.effect tid)) steps

/-- The bindings of one thread. -/
def ownStanding (tid : Int32) (ss : List (Binding × Host)) : List (Binding × Host) :=
  ss.filter fun s => s.1.boundTid = some tid

theorem ownStanding_map (tid caller : Int32) (step : ThreadStep) (ss : List (Binding × Host)) :
    ownStanding tid (ss.map (step.effect caller)) =
      (ownStanding tid ss).map (step.effect caller) := by
  rw [ownStanding, List.filter_map, ownStanding]
  congr 2
  funext s
  rw [Function.comp_apply, step.boundTid_effect]

/-- Bindings of other threads have nothing against a step. -/
theorem Undisturbed.all_accepts (undisturbed : e.Undisturbed) {step : ThreadStep}
    (within : step.ForThreads) :
    e.standing.all (step.accepts tid) = (ownStanding tid e.standing).all (step.accepts tid) := by
  rw [Bool.eq_iff_iff, List.all_eq_true, List.all_eq_true]
  constructor
  · exact fun all s own => all s (List.mem_of_mem_filter own)
  · intro all s listed
    by_cases own : s.1.boundTid = some tid
    · exact all s (List.mem_filter.mpr ⟨listed, decide_eq_true own⟩)
    · obtain ⟨b, member, rfl⟩ := List.mem_map.mp listed
      exact undisturbed.accepts_of_apart member own within

/-- A thread is answered what it would be answered if it were alone. -/
theorem Undisturbed.answersTo_eq (undisturbed : e.Undisturbed) {xs : Schedule}
    (threads : xs.OfThreads) (tid : Int32) :
    answersTo tid e xs = replies tid (ownStanding tid e.standing) (xs.of tid) := by
  induction xs generalizing e with
  | nil => rfl
  | cons x xs ih =>
    obtain ⟨caller, step⟩ := x
    obtain ⟨⟨thread, within⟩, threads⟩ := List.forall_mem_cons.mp threads
    obtain ⟨undisturbed', stepped, answered⟩ := undisturbed.next caller step
    rw [answersTo, ih undisturbed' threads, stepped, ownStanding_map]
    by_cases own : caller = tid
    · subst own
      rw [if_pos rfl, Schedule.of_cons_self, replies, answered, undisturbed.all_accepts within]
    · have still : (ownStanding tid e.standing).map (step.effect caller) =
          ownStanding tid e.standing := by
        refine (List.map_congr_left ?_).trans (List.map_id _)
        intro s listed
        obtain ⟨listed, follows⟩ := List.mem_filter.mp listed
        obtain ⟨b, member, rfl⟩ := List.mem_map.mp listed
        have follows : b.boundTid = some tid := of_decide_eq_true follows
        have apart : b.boundTid ≠ some caller := by
          rw [follows]
          exact fun same => own (Option.some.inj same).symm
        exact undisturbed.effect_of_apart member apart thread within
      rw [if_neg own, Schedule.of_cons_of_ne own, still]

/-- On a machine that plans no fault, threads do not disturb each other whatever was done with the
collector before: in all schedules in which each thread runs and calls scopes for threads in the
same order of its own, each call is answered alike and all bindings end alike.  A call for threads
never changes a binding that follows another thread or a whole device.  And of the calls that are
counted all are those of the own thread in a binding that follows one, and none in any other. -/
theorem threads_independent (none : h.counters = []) (name : String) (config : Json)
    (perApi : Bool) (before : List Act) :
    let e := (fresh name config perApi h).run before
    (e.collector.state = .started → e.host.Faultless →
      ∀ xs ys : Schedule, xs.OfThreads → (∀ tid, xs.of tid = ys.of tid) →
        (∀ tid, answersTo tid e xs = answersTo tid e ys) ∧
          (e.run xs.acts).bindings = (e.run ys.acts).bindings) ∧
    (∀ call id mask tid, ScopeMask.allThreads.contains mask →
      ∀ (k : Nat) (b : Binding), e.bindings[k]? = some b → b.boundTid ≠ some tid →
        (e.next (.scope call id mask tid)).bindings[k]? = some b) ∧
    ∀ b ∈ e.bindings,
      (b.device.isThreadBound = true → b.scopes.ownCalls = b.scopes.calls) ∧
      (b.device.isThreadBound = false → ∀ n ∈ b.scopes.ownCalls, n = 0) := by
  intro e
  have laid : e.Laid := ((laid_fresh none name config perApi).run before).1
  have planned : e.Planned := (planned_fresh name config perApi h).run before
  refine ⟨?_, ?_, ?_⟩
  · intro started faultless xs ys threads same
    have undisturbed : e.Undisturbed :=
      ⟨laid, planned, laid.valid.collecting.mpr started, faultless⟩
    have threads' := threads.of_same same
    constructor
    · intro tid
      rw [undisturbed.answersTo_eq threads, undisturbed.answersTo_eq threads', same]
    · have alone : xs.alone = ys.alone := by
        funext s
        unfold Schedule.alone
        simp only [same]
      have standing : (e.run xs.acts).standing = (e.run ys.acts).standing := by
        rw [undisturbed.standing_run threads, undisturbed.standing_run threads', alone]
      rw [← map_fst_standing, standing, map_fst_standing]
  · intro call id mask tid within k b bound apart
    have passed := planned.route_of_apart (List.mem_of_getElem? bound) apart within
    rw [next_scope]
    split
    · refine (Collector.sweep_getElem? bound).trans ?_
      simp only [Collector.scopeStep, passed]
    · exact bound
  · intro b member
    have counted : b.OwnCounted :=
      lasting_ownCounted.forall_run (List.forall_mem_nil _) before b member
    rw [Binding.OwnCounted] at counted
    rcases planned.role member with ⟨bound, ⟨tid, follows⟩, _⟩ | ⟨whole, follows, _⟩
    · rw [follows] at counted
      exact ⟨fun _ => counted, fun whole => Bool.noConfusion (bound.symm.trans whole)⟩
    · rw [follows] at counted
      exact ⟨fun bound => Bool.noConfusion (whole.symm.trans bound), fun _ => counted⟩

/-- Two threads in turn; the background thread stops a scope that it has not started. -/
def sampleTurns : Schedule :=
  [(101, .scope .start 1 ⟨3⟩), (102, .scope .start 2 ⟨2⟩), (101, .tick none [5, 7]),
    (102, .tick none [1]), (102, .scope .stop 9 ⟨2⟩), (101, .scope .stop 1 ⟨3⟩),
    (102, .scope .stop 2 ⟨2⟩)]

/-- The same with the background thread first. -/
def sampleBlocks : Schedule :=
  [(102, .scope .start 2 ⟨2⟩), (102, .tick none [1]), (102, .scope .stop 9 ⟨2⟩),
    (102, .scope .stop 2 ⟨2⟩), (101, .scope .start 1 ⟨3⟩), (101, .tick none [5, 7]),
    (101, .scope .stop 1 ⟨3⟩)]

theorem sampleTurns_of (tid : Int32) : sampleTurns.of tid = sampleBlocks.of tid := by
  by_cases first : tid = 101
  · subst first
    decide
  · by_cases second : tid = 102
    · subst second
      decide
    · simp [Schedule.of, sampleTurns, sampleBlocks, Ne.symm first, Ne.symm second]

theorem threads_independent_sampleTurns :
    let e := (fresh "perf" sampleThreads false {}).run [.init sampleTask, .start]
    e.collector.state = .started ∧ e.host.Faultless ∧ sampleTurns.OfThreads ∧
      (∀ tid, sampleTurns.of tid = sampleBlocks.of tid) ∧
      (∀ tid, answersTo tid e sampleTurns = answersTo tid e sampleBlocks) ∧
      (e.run sampleTurns.acts).bindings = (e.run sampleBlocks.acts).bindings ∧
      (∃ b, e.bindings[1]? = some b ∧ b.boundTid = some 102 ∧
        (e.next (.scope .start 1 ⟨3⟩ 101)).bindings[1]? = some b) ∧
      ∃ b ∈ e.bindings, b.device.isThreadBound = true ∧ b.scopes.ownCalls = b.scopes.calls := by
  intro e
  have reached : (e.collector.state, e.host.faults,
      e.bindings.map fun b => (b.boundTid, b.device.isThreadBound)) =
        (.started, [], [(some 101, true), (some 102, true), (none, false)]) := by
    simp only [e]
    cbv
  rw [Prod.mk.injEq, Prod.mk.injEq] at reached
  obtain ⟨started, faults, bound⟩ := reached
  have faultless : e.host.Faultless := by
    rw [Host.Faultless, faults]
    exact List.forall_mem_nil _
  have threads : sampleTurns.OfThreads := by decide
  obtain ⟨independent, apart, counted⟩ :=
    threads_independent (h := {}) rfl "perf" sampleThreads false [.init sampleTask, .start]
  obtain ⟨answers, bindings⟩ := independent started faultless _ _ threads sampleTurns_of
  have second : (e.bindings.map fun b => (b.boundTid, b.device.isThreadBound))[1]? =
      some (some 102, true) := by
    rw [bound]
    rfl
  rw [List.getElem?_map, Option.map_eq_some_iff] at second
  obtain ⟨b, at_one, is⟩ := second
  rw [Prod.mk.injEq] at is
  have member := List.mem_of_getElem? at_one
  refine ⟨started, faultless, threads, sampleTurns_of, answers, bindings, ⟨b, at_one, is.1, ?_⟩,
    b, member, is.2, (counted b member).1 is.2⟩
  apply apart .start 1 ⟨3⟩ 101 (by decide) 1 b at_one
  rw [is.1]
  decide

end Engine

end ScopeMeter

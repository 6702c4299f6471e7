import Mathlib.Data.List.Induction
import ScopeMeter.Proofs.Binding.Run

/-!
# Pairing of scope calls over a run

The mask of the open scope is kept by the binding, its number and its start snapshot by the
tracker of the group.  A stop of the binding clears the mask and leaves the tracker alone, so a
scope that is open when the binding is stopped is abandoned: its mask is forgotten while its
number keeps later starts out, until a stop of the scope releases it.

`Paired` says what is expected of the scope calls after some history.  `paired_iff` shows that
this is what holds exactly as long as no scope is abandoned, and what holds otherwise.
-/

namespace ScopeMeter

namespace Tracker

theorem check_stop_iff (t : Tracker) (id : UInt16) :
    t.check id true = .ok () ↔ t.opened = some id := by
  unfold check
  cases t.opened with
  | none => exact iff_of_false nofun nofun
  | some opened =>
    dsimp only
    rw [Option.some.injEq]
    split
    next same => exact iff_of_true rfl same
    next other => exact iff_of_false nofun other

theorem check_nested_iff (t : Tracker) (id opened : UInt16) :
    t.check id false = .error (.nestedStart id opened) ↔ t.opened = some opened := by
  unfold check
  cases t.opened with
  | none => exact iff_of_false nofun nofun
  | some other => simp

theorem opened_rebase (t : Tracker) (read : Snapshot) : (t.rebase read).opened = t.opened := by
  unfold rebase
  split <;> rfl

end Tracker

namespace Rig

/-- The acts of a run in their order, and whether each of them succeeded. -/
def history : Rig → List Act → List (Act × Bool)
  | _, [] => []
  | r, a :: acts => (a, r.succeeds a) :: (r.next a).history acts

/-- Whether a scope was started or stopped. -/
def isScopeCall : Act × Bool → Bool
  | (.scopeStart .., ok) | (.scopeStop .., ok) => ok
  | _ => false

/-- Whether the binding was stopped, which ends a period. -/
def isStop : Act × Bool → Bool
  | (.stop, _) => true
  | _ => false

/-- The last scope call that succeeded is this start; `stopped` tells whether the binding was
stopped since. -/
def LastStarted (done : List (Act × Bool)) (id : UInt16) (mask : ScopeMask) (stopped : Bool) :
    Prop :=
  ∃ earlier later, done = earlier ++ (.scopeStart id mask, true) :: later ∧
    ¬later.any isScopeCall ∧ later.any isStop = stopped

/-- The scope was started in the period that the history ends in: the binding was not stopped
since. -/
def StartedInPeriod (done : List (Act × Bool)) (id : UInt16) (mask : ScopeMask) : Prop :=
  ∃ earlier later, done = earlier ++ (.scopeStart id mask, true) :: later ∧ ¬later.any isStop

/-- A scope was open when the binding was stopped, and no scope call succeeded since. -/
def Abandoned (done : List (Act × Bool)) : Prop := ∃ id mask, LastStarted done id mask true

/-- What is expected of a binding after a history: it knows a mask when a scope is open, a stop of
the binding leaves no scope open, and a start is rejected as nested, or a stop succeeds, only for
the scope that was started last, in the same period and in the case of a stop with its mask. -/
structure Paired (r : Rig) (done : List (Act × Bool)) : Prop where
  agree : r.binding.scopeMask.isSome ↔ r.binding.group.scope.opened.isSome
  closed : ∀ earlier ok, done = earlier ++ [(.stop, ok)] → r.binding.group.scope.opened = none
  starts : ∀ id mask opened,
    r.answer (.scopeStart id mask) = .error (.scope (.nestedStart id opened)) →
      ∃ mask', LastStarted done opened mask' false
  stops : ∀ id mask isOwn, r.answer (.scopeStop id mask isOwn) = .ok () →
    LastStarted done id mask false

/-- What becomes of a binding whose scope was abandoned: the scope is open without a mask, every
start is rejected because of it, and no stop is that of a scope of the same period. -/
structure Stale (r : Rig) (done : List (Act × Bool)) (opened : UInt16) : Prop where
  mask : r.binding.scopeMask = none
  scope : r.binding.group.scope.opened = some opened
  starts : ∀ id mask,
    r.answer (.scopeStart id mask) = .error (.scope (.nestedStart id opened))
  period : ∀ id mask, ¬StartedInPeriod done id mask

/-! ## What a history says of the scope calls -/

inductive Standing
  | closed
  | running (id : UInt16) (mask : ScopeMask)
  | abandoned (id : UInt16)

def Standing.after : Standing → Act × Bool → Standing
  | _, (.scopeStart id mask, true) => .running id mask
  | _, (.scopeStop .., true) => .closed
  | .running id _, (.stop, _) => .abandoned id
  | s, _ => s

def standing (done : List (Act × Bool)) : Standing := done.foldl Standing.after .closed

theorem standing_concat (done : List (Act × Bool)) (e : Act × Bool) :
    standing (done ++ [e]) = (standing done).after e := by
  unfold standing
  rw [List.foldl_append, List.foldl_cons, List.foldl_nil]

/-- An entry opens a scope, closes one, ends a period, or changes nothing. -/
theorem Standing.after_cases (s : Standing) (e : Act × Bool) :
    (∃ id mask, e = (.scopeStart id mask, true) ∧ s.after e = .running id mask) ∨
    (isScopeCall e ∧ s.after e = .closed) ∨
    (¬isScopeCall e ∧ ∃ id mask, s = .running id mask ∧ isStop e ∧ s.after e = .abandoned id) ∨
    (¬isScopeCall e ∧ (isStop e → ∀ id mask, s ≠ .running id mask) ∧ s.after e = s) := by
  obtain ⟨a, ok⟩ := e
  cases a with
  | scopeStart id mask =>
    cases ok with
    | true => exact .inl ⟨id, mask, rfl, rfl⟩
    | false => exact .inr (.inr (.inr ⟨nofun, nofun, by cases s <;> rfl⟩))
  | scopeStop id mask isOwn =>
    cases ok with
    | true => exact .inr (.inl ⟨rfl, rfl⟩)
    | false => exact .inr (.inr (.inr ⟨nofun, nofun, by cases s <;> rfl⟩))
  | stop =>
    cases s with
    | running id mask => exact .inr (.inr (.inl ⟨nofun, id, mask, rfl, rfl, rfl⟩))
    | closed => exact .inr (.inr (.inr ⟨nofun, fun _ _ _ => nofun, rfl⟩))
    | abandoned id => exact .inr (.inr (.inr ⟨nofun, fun _ _ _ => nofun, rfl⟩))
  | start => exact .inr (.inr (.inr ⟨nofun, nofun, by cases s <;> rfl⟩))
  | collect now => exact .inr (.inr (.inr ⟨nofun, nofun, by cases s <;> rfl⟩))
  | summarize => exact .inr (.inr (.inr ⟨nofun, nofun, by cases s <;> rfl⟩))
  | clear => exact .inr (.inr (.inr ⟨nofun, nofun, by cases s <;> rfl⟩))
  | outside stimulus => exact .inr (.inr (.inr ⟨nofun, nofun, by cases s <;> rfl⟩))

theorem foldl_after_abandoned {later : List (Act × Bool)} (quiet : ¬later.any isScopeCall)
    (id : UInt16) : later.foldl Standing.after (.abandoned id) = .abandoned id := by
  induction later with
  | nil => rfl
  | cons e later ih =>
    rw [List.any_cons, Bool.or_eq_true, not_or] at quiet
    rw [List.foldl_cons]
    rcases (Standing.abandoned id).after_cases e with ⟨_, _, rfl, _⟩ | ⟨call, _⟩ |
      ⟨_, _, _, running, _⟩ | ⟨_, _, same⟩
    · cases quiet.1 rfl
    · cases quiet.1 call
    · cases running
    · rw [same, ih quiet.2]

theorem foldl_after_running {later : List (Act × Bool)} (quiet : ¬later.any isScopeCall)
    (id : UInt16) (mask : ScopeMask) :
    later.foldl Standing.after (.running id mask) =
      if later.any isStop then .abandoned id else .running id mask := by
  induction later with
  | nil => rfl
  | cons e later ih =>
    rw [List.any_cons, Bool.or_eq_true, not_or] at quiet
    rw [List.foldl_cons, List.any_cons]
    rcases (Standing.running id mask).after_cases e with ⟨_, _, rfl, _⟩ | ⟨call, _⟩ |
      ⟨_, _, _, running, stop, next⟩ | ⟨_, going, same⟩
    · cases quiet.1 rfl
    · cases quiet.1 call
    · cases running
      rw [next, stop, Bool.true_or, if_pos rfl, foldl_after_abandoned quiet.2]
    · have goes : isStop e = false := Bool.eq_false_iff.mpr fun stop => going stop id mask rfl
      rw [same, goes, Bool.false_or, ih quiet.2]

theorem LastStarted.standing {done : List (Act × Bool)} {id : UInt16} {mask : ScopeMask}
    {stopped : Bool} (started : LastStarted done id mask stopped) :
    standing done = if stopped then .abandoned id else .running id mask := by
  obtain ⟨earlier, later, rfl, quiet, rfl⟩ := started
  unfold Rig.standing
  rw [List.foldl_append, List.foldl_cons]
  exact foldl_after_running quiet id mask

theorem LastStarted.concat {done : List (Act × Bool)} {id : UInt16} {mask : ScopeMask}
    {stopped : Bool} (started : LastStarted done id mask stopped) {e : Act × Bool}
    (quiet : ¬isScopeCall e) : LastStarted (done ++ [e]) id mask (stopped || isStop e) := by
  obtain ⟨earlier, later, rfl, calls, rfl⟩ := started
  refine ⟨earlier, later ++ [e], by simp, ?_, ?_⟩
  · rw [List.any_append, Bool.or_eq_true, not_or]
    exact ⟨calls, by simpa using quiet⟩
  · rw [List.any_append, List.any_cons, List.any_nil, Bool.or_false]

/-- The standing names the last start. -/
theorem lastStarted_standing (done : List (Act × Bool)) :
    (∀ id mask, standing done = .running id mask → LastStarted done id mask false) ∧
      ∀ id, standing done = .abandoned id → ∃ mask, LastStarted done id mask true := by
  induction done using List.reverseRecOn with
  | nil => exact ⟨nofun, nofun⟩
  | append_singleton done e ih =>
    obtain ⟨running, abandoned⟩ := ih
    rw [standing_concat]
    rcases (standing done).after_cases e with ⟨id, mask, rfl, next⟩ | ⟨_, next⟩ |
      ⟨quiet, id, mask, was, stop, next⟩ | ⟨quiet, going, same⟩
    · rw [next]
      refine ⟨?_, nofun⟩
      rintro _ _ ⟨⟩
      exact ⟨done, [], rfl, nofun, rfl⟩
    · rw [next]
      exact ⟨nofun, nofun⟩
    · rw [next]
      refine ⟨nofun, ?_⟩
      rintro _ ⟨⟩
      have grown := (running id mask was).concat quiet
      rw [stop] at grown
      exact ⟨mask, grown⟩
    · rw [same]
      constructor
      · intro id mask is
        have grown := (running id mask is).concat quiet
        have goes : isStop e = false := Bool.eq_false_iff.mpr fun stop => going stop id mask is
        rwa [goes] at grown
      · intro id is
        obtain ⟨mask, started⟩ := abandoned id is
        exact ⟨mask, started.concat quiet⟩

theorem abandoned_iff (done : List (Act × Bool)) :
    Abandoned done ↔ ∃ id, standing done = .abandoned id := by
  constructor
  · rintro ⟨id, mask, started⟩
    exact ⟨id, started.standing⟩
  · rintro ⟨id, is⟩
    exact ⟨id, (lastStarted_standing done).2 id is⟩

/-- While a scope is abandoned, no scope was started in the period. -/
theorem StartedInPeriod.not_abandoned {done : List (Act × Bool)} {id : UInt16} {mask : ScopeMask}
    (started : StartedInPeriod done id mask) (opened : UInt16) :
    standing done ≠ .abandoned opened := by
  obtain ⟨earlier, later, rfl, going⟩ := started
  unfold standing
  rw [List.foldl_append, List.foldl_cons]
  have begun : ∀ opened,
      (earlier.foldl Standing.after .closed).after (.scopeStart id mask, true) ≠
        .abandoned opened := nofun
  generalize (earlier.foldl Standing.after .closed).after (.scopeStart id mask, true) = s at begun ⊢
  induction later generalizing s with
  | nil => exact begun opened
  | cons e later ih =>
    rw [List.any_cons, Bool.or_eq_true, not_or] at going
    rw [List.foldl_cons]
    apply ih going.2
    intro opened
    rcases s.after_cases e with ⟨_, _, _, next⟩ | ⟨_, next⟩ | ⟨_, _, _, _, stop, _⟩ |
      ⟨_, _, same⟩
    · rw [next]
      nofun
    · rw [next]
      nofun
    · cases going.1 stop
    · rw [same]
      exact begun opened

/-! ## What a binding knows of them -/

/-- What the binding and the tracker of its group know of the open scope. -/
def Follows (b : Binding) : Standing → Prop
  | .closed => b.scopeMask = none ∧ b.group.scope.opened = none
  | .running id mask => b.scopeMask = some mask ∧ b.group.scope.opened = some id
  | .abandoned id => b.scopeMask = none ∧ b.group.scope.opened = some id

variable {r : Rig} {s : Standing}

theorem Follows.of_same {b b' : Binding} (follows : Follows b s)
    (mask : b'.scopeMask = b.scopeMask)
    (opened : b'.group.scope.opened = b.group.scope.opened) : Follows b' s := by
  cases s <;> simpa only [Follows, mask, opened] using follows

/-- A collection moves the start snapshot at most. -/
theorem opened_collect (r : Rig) (now : Int64) :
    (r.next (.collect now)).binding.scopeMask = r.binding.scopeMask ∧
      (r.next (.collect now)).binding.group.scope.opened = r.binding.group.scope.opened := by
  obtain ⟨_, _, clocks, next⟩ := r.binding.collect_eq now r.host
  have is : (r.next (.collect now)).binding = _ := next
  rw [is]
  refine ⟨rfl, ?_⟩
  rcases r.binding.group.collect_cases now r.host with ⟨_, _, _, same, _⟩ |
    ⟨snap, _, _, _, _, ⟨_, moved, _⟩ | ⟨_, same, _⟩⟩
  · rw [same]
  · rw [moved]
    exact Tracker.opened_rebase ..
  · rw [same]

/-- Each act brings the binding where it brings the standing of its scope calls. -/
theorem Follows.next (follows : Follows r.binding s) (a : Act) :
    Follows (r.next a).binding (s.after (a, r.succeeds a)) := by
  cases a with
  | start => cases s <;> exact follows
  | summarize => cases s <;> exact follows
  | clear => cases s <;> exact follows
  | outside stimulus => cases s <;> exact follows
  | collect now =>
    obtain ⟨mask, opened⟩ := r.opened_collect now
    have kept := follows.of_same mask opened
    cases s <;> exact kept
  | stop =>
    cases s with
    | closed => exact ⟨rfl, follows.2⟩
    | running id mask => exact ⟨rfl, follows.2⟩
    | abandoned id => exact ⟨rfl, follows.2⟩
  | scopeStart id mask =>
    rcases (r.binding.scopeStart_cases id mask r.host).2 with ⟨e, failed, next⟩ |
      ⟨snap, _, _, ok, next⟩
    · have fails : r.succeeds (.scopeStart id mask) = false := congrArg Except.isOk failed
      have kept := follows.of_same (congrArg Binding.scopeMask next)
        (congrArg (fun b => b.group.scope.opened) next)
      rw [fails]
      cases s <;> exact kept
    · have succeeds : r.succeeds (.scopeStart id mask) = true := congrArg Except.isOk ok
      rw [succeeds]
      exact ⟨congrArg Binding.scopeMask next, congrArg (fun b => b.group.scope.opened) next⟩
  | scopeStop id mask isOwn =>
    rcases (r.binding.scopeStop_cases id mask isOwn r.host).2 with ⟨e, failed, next⟩ |
      ⟨snap, _, _, _, ok, next⟩
    · have fails : r.succeeds (.scopeStop id mask isOwn) = false := congrArg Except.isOk failed
      have kept := follows.of_same (congrArg Binding.scopeMask next)
        (congrArg (fun b => b.group.scope.opened) next)
      rw [fails]
      cases s <;> exact kept
    · have succeeds : r.succeeds (.scopeStop id mask isOwn) = true := congrArg Except.isOk ok
      rw [succeeds]
      exact ⟨congrArg Binding.scopeMask next, congrArg (fun b => b.group.scope.opened) next⟩

theorem Follows.run (follows : Follows r.binding s) (acts : List Act) :
    Follows (r.run acts).binding ((r.history acts).foldl Standing.after s) := by
  induction acts generalizing r s with
  | nil => exact follows
  | cons a acts ih => exact ih (follows.next a)

/-- A stop that succeeds is one of the open scope, and with its mask if the binding knows it. -/
theorem Follows.of_scopeStop (follows : Follows r.binding s) {id : UInt16} {mask : ScopeMask}
    {isOwn : Bool} (ok : r.answer (.scopeStop id mask isOwn) = .ok ()) :
    s = .running id mask ∨ s = .abandoned id := by
  rcases (r.binding.scopeStop_cases id mask isOwn r.host).2 with ⟨e, failed, _⟩ |
    ⟨snap, matched, check, _⟩
  · cases failed.symm.trans ok
  · have opened := (Tracker.check_stop_iff ..).mp check
    cases s with
    | closed => cases opened.symm.trans follows.2
    | running id' mask' =>
      cases opened.symm.trans follows.2
      rw [Binding.maskFault?, follows.1] at matched
      dsimp only at matched
      split at matched
      next same => exact .inl (by rw [same])
      · cases matched
    | abandoned id' =>
      cases opened.symm.trans follows.2
      exact .inr rfl

/-- As long as no scope is abandoned the scope calls are paired as expected. -/
theorem Follows.paired {done : List (Act × Bool)} (follows : Follows r.binding (standing done))
    (kept : ∀ id, standing done ≠ .abandoned id) : Paired r done := by
  have started := (lastStarted_standing done).1
  refine ⟨?_, ?_, ?_, ?_⟩
  · cases is : standing done with
    | closed =>
      rw [is] at follows
      rw [follows.1, follows.2]
      rfl
    | running id mask =>
      rw [is] at follows
      rw [follows.1, follows.2]
      rfl
    | abandoned id => exact absurd is (kept id)
  · intro earlier ok last
    rw [last, standing_concat] at follows kept
    cases is : standing earlier with
    | closed =>
      rw [is] at follows
      exact follows.2
    | running id mask =>
      rw [is] at kept
      exact absurd rfl (kept id)
    | abandoned id =>
      rw [is] at kept
      exact absurd rfl (kept id)
  · intro id mask opened nested
    have entered := (Tracker.check_nested_iff ..).mp (Binding.scopeStart_refused_iff.mp nested)
    cases is : standing done with
    | closed =>
      rw [is] at follows
      cases entered.symm.trans follows.2
    | running id' mask' =>
      rw [is] at follows
      cases entered.symm.trans follows.2
      exact ⟨mask', started opened mask' is⟩
    | abandoned id => exact absurd is (kept id)
  · intro id mask isOwn ok
    rcases follows.of_scopeStop ok with is | is
    · exact started id mask is
    · exact absurd is (kept id)

/-- A scope that is abandoned stays open without a mask and keeps every other scope out. -/
theorem Follows.stale {done : List (Act × Bool)} (follows : Follows r.binding (standing done))
    {opened : UInt16} (is : standing done = .abandoned opened) : Stale r done opened := by
  rw [is] at follows
  refine ⟨follows.1, follows.2, ?_, ?_⟩
  · intro id mask
    exact Binding.scopeStart_refused_iff.mpr ((Tracker.check_nested_iff ..).mpr follows.2)
  · intro id mask started
    exact started.not_abandoned opened is

theorem follows_opening {b : Binding} {events : List Event} {h : Host} (sound : h.Sound)
    (unmasked : b.scopeMask = none) (opens : (b.init events h).result = .ok ()) :
    Follows (opening b events h).binding .closed := by
  rcases b.init_cases sound events with ⟨e, failed, _⟩ | ⟨_, _, _, scope, _⟩
  · cases failed.symm.trans opens
  · exact ⟨unmasked, congrArg Tracker.opened scope⟩

/-- Of a binding that was opened without a mask: whatever is done with it and whichever calls
fail, mask and tracker agree, stops leave nothing open and scope calls are paired within their
period exactly as long as no scope is abandoned; an abandoned scope breaks all of it. -/
theorem paired_iff_not_abandoned {b : Binding} {events : List Event} {h : Host} (sound : h.Sound)
    (unmasked : b.scopeMask = none) (opens : (b.init events h).result = .ok ())
    (acts : List Act) :
    let r := (opening b events h).run acts
    let done := (opening b events h).history acts
    (Paired r done ↔ ¬Abandoned done) ∧ (Abandoned done → ∃ opened, Stale r done opened) := by
  intro r done
  have follows : Follows r.binding (standing done) :=
    (follows_opening sound unmasked opens).run acts
  have stale : Abandoned done → ∃ opened, Stale r done opened := by
    intro abandoned
    obtain ⟨opened, is⟩ := (abandoned_iff done).mp abandoned
    exact ⟨opened, follows.stale is⟩
  refine ⟨⟨?_, ?_⟩, stale⟩
  · intro paired abandoned
    obtain ⟨opened, broken⟩ := stale abandoned
    have masked := paired.agree.mpr (by rw [broken.scope]; rfl)
    rw [broken.mask] at masked
    cases masked
  · intro kept
    exact follows.paired fun id is => kept ((abandoned_iff done).mpr ⟨id, is⟩)

/-- A period that ends within a scope, and the start of the next one. -/
def sampleStop : List Act := [.start, .scopeStart 1 ⟨1⟩, .stop, .start]

theorem paired_iff_not_abandoned_sampleStop :
    Abandoned ((opening sampleThread sampleEvents {}).history sampleStop) ∧
      (∃ opened, Stale ((opening sampleThread sampleEvents {}).run sampleStop)
        ((opening sampleThread sampleEvents {}).history sampleStop) opened) ∧
      Paired ((opening sampleThread sampleEvents {}).run [.scopeStart 1 ⟨1⟩])
        ((opening sampleThread sampleEvents {}).history [.scopeStart 1 ⟨1⟩]) := by
  have opens : (sampleThread.init sampleEvents {}).result = .ok () := by decide +kernel
  have abandoned : Abandoned ((opening sampleThread sampleEvents {}).history sampleStop) :=
    ⟨1, ⟨1⟩, [(.start, true)], [(.stop, true), (.start, true)], by decide +kernel, nofun, rfl⟩
  have kept : ¬Abandoned ((opening sampleThread sampleEvents {}).history [.scopeStart 1 ⟨1⟩]) := by
    have started : LastStarted ((opening sampleThread sampleEvents {}).history
        [.scopeStart 1 ⟨1⟩]) 1 ⟨1⟩ false := ⟨[], [], by decide +kernel, nofun, rfl⟩
    rw [abandoned_iff]
    rintro ⟨id, is⟩
    cases started.standing.symm.trans is
  exact ⟨abandoned,
    (paired_iff_not_abandoned (.of_counters_eq_nil rfl) rfl opens sampleStop).2 abandoned,
    (paired_iff_not_abandoned (.of_counters_eq_nil rfl) rfl opens [.scopeStart 1 ⟨1⟩]).1.mpr kept⟩

/-- In the period after such a stop no scope can be started, and the old one can be stopped with
any mask. -/
theorem not_paired_sampleStop :
    (sampleThread.init sampleEvents {}).result = .ok () ∧
      ¬Paired ((opening sampleThread sampleEvents {}).run sampleStop)
        ((opening sampleThread sampleEvents {}).history sampleStop) ∧
      ((opening sampleThread sampleEvents {}).run sampleStop).answer (.scopeStart 2 ⟨1⟩) =
        .error (.scope (.nestedStart 2 1)) ∧
      ((opening sampleThread sampleEvents {}).run sampleStop).answer (.scopeStop 1 ⟨8⟩ false) =
        .ok () := by
  refine ⟨by decide +kernel, ?_, by decide +kernel, by decide +kernel⟩
  intro paired
  exact absurd paired.agree (by decide +kernel)

end Rig

end ScopeMeter

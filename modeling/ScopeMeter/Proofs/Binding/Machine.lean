import ScopeMeter.Proofs.Collector.Sweep

/-!
# The part of a machine that a binding works on

Without planned faults nothing but the counters of its own group decides what a scope call does to
a binding.  `Binding.machine` is a machine that has just these counters.  A scope call does to a
binding on the whole machine what it does there (`Binding.scopeStep_machine`), and time passes
there as it does on the whole machine (`Binding.machine_tick`).
-/

namespace ScopeMeter

/-! ## Machines without planned faults -/

/-- Rules that have run out meet no call. -/
theorem FaultRule.fire_of_spent {rules : List FaultRule} (spent : ∀ r ∈ rules, r.times = 0)
    (call : CallKind) (subject : Subject) : fire call subject rules = (none, rules) := by
  induction rules with
  | nil => rfl
  | cons r rules ih =>
    rw [List.forall_mem_cons] at spent
    have passed : r.concerns call subject = false := by
      rw [concerns, spent.1]
      exact Bool.and_false _
    rw [fire, ih spent.2, passed, if_neg Bool.false_ne_true]

namespace Host

/-- No planned fault is left. -/
def Faultless (h : Host) : Prop := ∀ r ∈ h.faults, r.times = 0

variable {h h' : Host} {leader room : Nat}

theorem Faultless.fire (faultless : h.Faultless) (call : CallKind) (subject : Subject) :
    h.fire call subject = (none, h) := by
  rw [Host.fire, FaultRule.fire_of_spent faultless]

/-- A read is about the counters of its group only. -/
theorem Faultless.readRaw_congr (faultless : h.Faultless) (faultless' : h'.Faultless)
    (group : h.group leader = h'.group leader) :
    (h.readRaw leader).1 = (h'.readRaw leader).1 := by
  simp only [readRaw, faultless.fire, faultless'.fire, group]
  split <;> rfl

theorem Faultless.readGroup_congr (faultless : h.Faultless) (faultless' : h'.Faultless)
    (group : h.group leader = h'.group leader) (room : Nat) :
    (h.readGroup leader room).1 = (h'.readGroup leader room).1 := by
  have raw := faultless.readRaw_congr faultless' group
  unfold readGroup
  generalize h.readRaw leader = answer at raw
  generalize h'.readRaw leader = answer' at raw
  obtain ⟨result, _⟩ := answer
  obtain ⟨_, _⟩ := answer'
  cases raw
  cases result <;> rfl

theorem Faultless.readGroup (faultless : h.Faultless) : (h.readGroup leader room).2.Faultless := by
  have raw : (h.readRaw leader).2.Faultless := by
    simp only [readRaw, faultless.fire]
    split <;> exact faultless
  unfold Host.readGroup
  split
  next eq => rwa [eq] at raw
  next eq => rwa [eq] at raw

end Host

namespace Group

variable {g : Group} {h h' : Host}

theorem read_congr (faultless : h.Faultless) (faultless' : h'.Faultless)
    (group : ∀ leader, g.leader? = some leader → h.group leader = h'.group leader) :
    (g.read h).1 = (g.read h').1 := by
  unfold read
  cases opened : g.leader? with
  | none => rfl
  | some leader =>
    have raw := faultless.readGroup_congr faultless' (group leader opened) maxCounters
    dsimp only
    generalize h.readGroup leader maxCounters = answer at raw
    generalize h'.readGroup leader maxCounters = answer' at raw
    obtain ⟨result, _⟩ := answer
    obtain ⟨_, _⟩ := answer'
    cases raw
    cases result <;> rfl

theorem faultless_read (g : Group) (faultless : h.Faultless) : (g.read h).2.Faultless := by
  unfold read
  split
  · exact faultless
  next leader _ =>
    have after : (h.readGroup leader maxCounters).2.Faultless := faultless.readGroup
    split
    next eq => rwa [eq] at after
    next eq =>
      rw [eq] at after
      dsimp only
      split <;> exact after

theorem collectScope_congr (faultless : h.Faultless) (faultless' : h'.Faultless)
    (group : ∀ leader, g.leader? = some leader → h.group leader = h'.group leader) (id : UInt16)
    (isStop : Bool) :
    (g.collectScope id isStop h).result = (g.collectScope id isStop h').result ∧
      (g.collectScope id isStop h).next = (g.collectScope id isStop h').next := by
  have read := read_congr faultless faultless' group
  unfold collectScope
  split
  · exact ⟨rfl, rfl⟩
  · generalize g.read h = answer at read
    generalize g.read h' = answer' at read
    obtain ⟨result, _⟩ := answer
    obtain ⟨_, _⟩ := answer'
    cases read
    cases result <;> exact ⟨rfl, rfl⟩

theorem faultless_collectScope (g : Group) (faultless : h.Faultless) (id : UInt16)
    (isStop : Bool) : (g.collectScope id isStop h).host.Faultless := by
  have after := g.faultless_read faultless
  unfold collectScope
  split
  · exact faultless
  · split
    next eq => rwa [eq] at after
    next eq => rwa [eq] at after

end Group

namespace Binding

variable {h h' : Host}

/-- A scope call is about the binding and the counters of its group only. -/
theorem scopeStep_congr (b : Binding) (faultless : h.Faultless) (faultless' : h'.Faultless)
    (group : ∀ leader, b.group.leader? = some leader → h.group leader = h'.group leader)
    (call : ScopeCall) (id : UInt16) (mask : ScopeMask) (tid : Int32) :
    (Collector.scopeStep call id mask tid b h).result =
        (Collector.scopeStep call id mask tid b h').result ∧
      (Collector.scopeStep call id mask tid b h).next =
        (Collector.scopeStep call id mask tid b h').next := by
  have read := fun isStop => Group.collectScope_congr faultless faultless' group id isStop
  unfold Collector.scopeStep
  split
  · exact ⟨rfl, rfl⟩
  cases call with
  | start =>
    obtain ⟨result, next⟩ := read false
    simp only [scopeStart, ← result, ← next]
    cases (b.group.collectScope id false h).result <;> exact ⟨rfl, rfl⟩
  | stop =>
    obtain ⟨result, next⟩ := read true
    dsimp only
    unfold scopeStop
    cases b.maskFault? id mask with
    | some fault => exact ⟨rfl, rfl⟩
    | none =>
      simp only [← result, ← next]
      cases (b.group.collectScope id true h).result <;> exact ⟨rfl, rfl⟩

theorem faultless_scopeStep (b : Binding) (faultless : h.Faultless) (call : ScopeCall)
    (id : UInt16) (mask : ScopeMask) (tid : Int32) :
    (Collector.scopeStep call id mask tid b h).host.Faultless := by
  have after := fun isStop => b.group.faultless_collectScope faultless id isStop
  unfold Collector.scopeStep
  split
  · exact faultless
  cases call with
  | start =>
    simp only [scopeStart]
    cases (b.group.collectScope id false h).result <;> exact after false
  | stop =>
    dsimp only
    unfold scopeStop
    cases b.maskFault? id mask with
    | some fault => exact faultless
    | none =>
      dsimp only
      cases (b.group.collectScope id true h).result <;> exact after true

/-! ## The machine of a binding -/

/-- A machine with the counters of the binding's group and nothing else. -/
def machine (b : Binding) (h : Host) : Host :=
  { counters := h.counters.filter fun c => b.group.leader? = some c.leader }

theorem faultless_machine (b : Binding) (h : Host) : (b.machine h).Faultless :=
  List.forall_mem_nil _

theorem group_machine (b : Binding) (h : Host) {leader : Nat}
    (opened : b.group.leader? = some leader) : (b.machine h).group leader = h.group leader := by
  simp only [Host.group, machine, List.filter_filter, opened, Option.some.injEq]
  apply List.filter_congr
  intro c _
  by_cases same : c.leader = leader <;> simp [same]

/-- Which counters the group of a binding has is told by its leader. -/
theorem machine_congr {b b' : Binding} (leader : b'.group.leader? = b.group.leader?)
    (counters : h'.counters = h.counters) : b'.machine h' = b.machine h := by
  rw [machine, machine, leader, counters]

/-- A scope call does to a binding what it does on the binding's own machine. -/
theorem scopeStep_machine (b : Binding) (faultless : h.Faultless) (call : ScopeCall) (id : UInt16)
    (mask : ScopeMask) (tid : Int32) :
    (Collector.scopeStep call id mask tid b h).result =
        (Collector.scopeStep call id mask tid b (b.machine h)).result ∧
      (Collector.scopeStep call id mask tid b h).next =
        (Collector.scopeStep call id mask tid b (b.machine h)).next :=
  b.scopeStep_congr faultless (b.faultless_machine h)
    (fun _ opened => (b.group_machine h opened).symm) call id mask tid

end Binding

/-- Handing a scope call to every binding does to each what the call does on the binding's own
machine, and succeeds when all of these do. -/
theorem Collector.sweep_scope {h : Host} (faultless : h.Faultless) (call : ScopeCall)
    (id : UInt16) (mask : ScopeMask) (tid : Int32) (notice : Binding → Error → Notice)
    (bs : List Binding) :
    let op := scopeStep call id mask tid
    let after := sweep op notice bs h
    after.result = bs.all (fun b => (op b (b.machine h)).result.isOk) ∧
      after.next = bs.map (fun b => (op b (b.machine h)).next) ∧
      h.Unchanged after.host ∧ after.host.Faultless := by
  intro op after
  induction bs generalizing h with
  | nil => exact ⟨rfl, rfl, .refl h, faultless⟩
  | cons b bs ih =>
    have unchanged : h.Unchanged (stepHost op notice b h) :=
      (scopeStep_cases call id mask tid b h).1.trans (unchanged_stepHost b h)
    have still : (stepHost op notice b h).Faultless := by
      have own := b.faultless_scopeStep faultless call id mask tid
      unfold stepHost
      split <;> exact own
    have machines : ∀ b' : Binding, b'.machine (stepHost op notice b h) = b'.machine h :=
      fun b' => Binding.machine_congr rfl unchanged.counters
    obtain ⟨answer, next⟩ := b.scopeStep_machine faultless call id mask tid
    obtain ⟨results, nexts, rest, quiet⟩ := ih still
    simp only [machines] at results nexts
    have split : after = _ := sweep_cons b bs h
    rw [split]
    refine ⟨?_, ?_, unchanged.trans rest, quiet⟩
    · rw [results, answer, List.all_cons]
    · rw [nexts, next, List.map_cons]

/-! ## Passing time -/

namespace Host

variable {leader : Nat}

theorem feed_nil (f : UInt64 → UInt64 → UInt64) (leader : Nat) (cs : List LiveCounter) :
    feed f leader cs [] = cs := by
  cases cs <;> rfl

/-- Feeding a group does to the group what it does among all counters. -/
theorem filter_feed_self (f : UInt64 → UInt64 → UInt64) (cs : List LiveCounter)
    (vs : List UInt64) :
    (feed f leader cs vs).filter (fun c => c.leader = leader) =
      feed f leader (cs.filter fun c => c.leader = leader) vs := by
  induction cs generalizing vs with
  | nil => simp [feed]
  | cons c cs ih =>
    cases vs with
    | nil => rw [feed_nil, feed_nil]
    | cons v vs =>
      rw [feed]
      by_cases same : c.leader = leader
      · rw [if_pos same, List.filter_cons_of_pos (by simpa using same),
          List.filter_cons_of_pos (by simpa using same), ih, feed, if_pos same]
      · rw [if_neg same, List.filter_cons_of_neg (by simpa using same),
          List.filter_cons_of_neg (by simpa using same), ih]

theorem filter_foldl_feed (f : UInt64 → UInt64 → UInt64) (leaders cs : List LiveCounter)
    (vs : List UInt64) :
    (leaders.foldl (fun cs l => feed f l.handle cs vs) cs).filter (fun c => c.leader = leader) =
      (leaders.filter fun l => l.handle = leader).foldl (fun cs l => feed f l.handle cs vs)
        (cs.filter fun c => c.leader = leader) := by
  induction leaders generalizing cs with
  | nil => rfl
  | cons l leaders ih =>
    rw [List.foldl_cons, ih]
    by_cases same : l.handle = leader
    · rw [List.filter_cons_of_pos (by simpa using same), List.foldl_cons, same, filter_feed_self]
    · rw [List.filter_cons_of_neg (by simpa using same), filter_feed_of_ne cs vs (Ne.symm same)]

/-- The leaders that a tick finds among the counters of a group are those of the group. -/
theorem leadersOf_group (h : Host) (tid : Int32) (type : Option UInt32) (leader : Nat) :
    ((h.leadersOf tid type).filter (·.enabled)).filter (fun l => l.handle = leader) =
      (({ counters := h.group leader : Host }.leadersOf tid type).filter (·.enabled)) := by
  simp only [leadersOf, group, List.filter_filter]
  apply List.filter_congr
  intro c _
  by_cases leads : c.handle = c.leader
  · rw [leads]
    cases c.enabled <;> by_cases same : c.leader = leader <;> simp [same]
  · simp [leads]

theorem group_tick (h : Host) (tid : Int32) (type : Option UInt32) (amounts : List UInt64)
    (leader : Nat) :
    (h.tick tid type amounts).group leader =
      ({ counters := h.group leader : Host }.tick tid type amounts).counters := by
  rw [group, tick, tick, filter_foldl_feed, leadersOf_group]
  rfl

/-- Time does not touch the counters that follow another thread. -/
theorem tick_of_apart {h : Host} {tid : Int32} (apart : ∀ c ∈ h.counters, c.tid ≠ tid)
    (type : Option UInt32) (amounts : List UInt64) : h.tick tid type amounts = h := by
  have none : h.leadersOf tid type = [] := by
    rw [leadersOf, List.filter_eq_nil_iff]
    intro c live
    simp [apart c live]
  rw [tick, none]
  rfl

end Host

/-- Time passes on the machine of a binding as it does on the whole machine. -/
theorem Binding.machine_tick (b : Binding) (h : Host) (tid : Int32) (type : Option UInt32)
    (amounts : List UInt64) :
    b.machine (h.tick tid type amounts) = (b.machine h).tick tid type amounts := by
  cases opened : b.group.leader? with
  | none =>
    have bare : ∀ k, b.machine k = {} := by
      intro k
      simp [machine, opened]
    rw [bare, bare]
    rfl
  | some leader =>
    have own : ∀ k : Host, b.machine k = { counters := k.group leader } := by
      intro k
      simp only [machine, Host.group, opened, Option.some.injEq, eq_comm]
    rw [own, own, Host.group_tick]
    rfl

end ScopeMeter

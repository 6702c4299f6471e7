import ScopeMeter.Proofs.Collector.Sweep

/-!
# Bindings that differ in how far their series are summed up

Two bindings are `Alike` when they are the same but for their series, and these have the same names
and totals.  No operation looks at the series, and each changes the totals alike; so alike bindings
answer alike, do the same to the machine, and stay alike (`Collector.Blind`), one by one and in a
sweep over all of them.
-/

namespace ScopeMeter

/-- The totals of series by name. -/
def totals (m : SeriesMap) : Keyed Int64 := m.map Series.total

theorem Series.total_append (s : Series) (values : List Int64) :
    (s.append values).total = s.total + wrappingSum values := by
  simp only [total_eq, append, wrappingSum_append, Int64.add_assoc]

theorem totals_summarize (m : SeriesMap) : totals (m.map Series.summarize) = totals m := by
  apply Keyed.ext_get?
  intro name
  simp only [totals, Keyed.get?_map, Option.map_map]
  congr 1
  funext s
  exact s.total_summarize

variable {m m' : SeriesMap}

/-- A change of one series that is known by totals is one of the totals. -/
theorem totals_update (same : totals m = totals m') (name : String) {f : Series → Series}
    (respects : ∀ s s' : Series, s.total = s'.total → (f s).total = (f s').total) :
    totals (m.update name {} f) = totals (m'.update name {} f) := by
  have old : ∀ key, (m.get? key).map Series.total = (m'.get? key).map Series.total := by
    intro key
    have same := congrArg (Keyed.get? · key) same
    simpa only [totals, Keyed.get?_map] using same
  apply Keyed.ext_get?
  intro key
  simp only [totals, Keyed.get?_map, Keyed.get?_update]
  split
  · refine congrArg some (respects _ _ ?_)
    have base := congrArg (Option.getD · 0) (old name)
    cases left : m.get? name <;> cases right : m'.get? name <;> rw [left, right] at base <;>
      exact base
  · exact old key

theorem totals_appendTo (same : totals m = totals m') (name : String) (values : List Int64) :
    totals (Accumulator.appendTo m name values) = totals (Accumulator.appendTo m' name values) := by
  unfold Accumulator.appendTo
  split
  · exact same
  · apply totals_update same
    intro s s' total
    rw [Series.total_append, Series.total_append, total]

theorem totals_flushInto (same : totals m = totals m') (a : Accumulator) (names : List String) :
    totals (a.flushInto names m) = totals (a.flushInto names m') := by
  unfold Accumulator.flushInto
  induction a.arrays names generalizing m m' with
  | nil => exact same
  | cons e arrays ih => exact ih (totals_appendTo same e.1 e.2)

namespace Binding

variable {b b' : Binding} {h : Host}

/-- The same bindings but for their series, which have the same names and totals. -/
structure Alike (b b' : Binding) : Prop where
  bare : b' = { b with results := b'.results }
  totals : totals b.results = totals b'.results

theorem Alike.refl (b : Binding) : Alike b b := ⟨rfl, rfl⟩

theorem totals_addRound (alike : b.Alike b') (snap : Snapshot) :
    totals (b.addRound snap).results = totals (b'.addRound snap).results := by
  obtain ⟨bare, same⟩ := alike
  have names : b'.eventNames = b.eventNames := by rw [bare]
  simp only [addRound, names]
  generalize b.results = m at same
  generalize b'.results = m' at same
  induction b.eventNames.zipIdx generalizing m m' with
  | nil => exact same
  | cons e names ih =>
    refine ih _ _ (totals_update same e.1 ?_)
    intro s s' total
    rw [Series.total_push, Series.total_push, total]

theorem Alike.addRound (alike : b.Alike b') (snap : Snapshot) :
    (b.addRound snap).Alike (b'.addRound snap) := by
  have same := totals_addRound alike snap
  obtain ⟨bare, _⟩ := alike
  rw [bare] at same ⊢
  exact ⟨rfl, same⟩

theorem Alike.addClock (alike : b.Alike b') (h : Host) :
    (b'.addClock h).2 = (b.addClock h).2 ∧ (b.addClock h).1.Alike (b'.addClock h).1 := by
  obtain ⟨bare, same⟩ := alike
  rw [bare]
  obtain ⟨_, _, _, device, _, _, _, _, _, _⟩ := b
  cases device with
  | cspmu device =>
    simp only [Binding.addClock]
    rcases h.sampleClock with ⟨sample, h'⟩
    cases sample <;> exact ⟨rfl, rfl, same⟩
  | single => exact ⟨rfl, rfl, same⟩
  | pmu device => exact ⟨rfl, rfl, same⟩
  | interconnect => exact ⟨rfl, rfl, same⟩

theorem Alike.withGroup (alike : b.Alike b') (group : Group) :
    Alike { b with group } { b' with group } := by
  obtain ⟨bare, same⟩ := alike
  rw [bare]
  exact ⟨rfl, same⟩

/-- Summing up one of them keeps two bindings alike. -/
theorem Alike.summarize_left (alike : b.Alike b') : b.summarize.Alike b' := by
  obtain ⟨bare, same⟩ := alike
  refine ⟨?_, ?_⟩
  · rw [bare]
    rfl
  · rw [Binding.summarize, totals_summarize, same]

theorem Alike.clear (alike : b.Alike b') : b.clear.Alike b'.clear := by
  obtain ⟨bare, _⟩ := alike
  rw [bare]
  exact ⟨rfl, rfl⟩

end Binding

/-! ## Operations that do not look at series -/

namespace Collector

/-- To alike bindings the operation answers alike, it does the same to the machine, and leaves them
alike. -/
def Blind (op : Binding → Host → Outcome Binding (Except Error Unit)) : Prop :=
  ∀ (b b' : Binding) (h : Host), b.Alike b' →
    (op b' h).result = (op b h).result ∧ (op b' h).host = (op b h).host ∧
      (op b h).next.Alike (op b' h).next

theorem blind_collect (now : Int64) : Blind fun b => b.collect now := by
  intro b b' h alike
  have group : b'.group = b.group := by rw [alike.bare]
  have round : b'.roundOf = b.roundOf := by rw [alike.bare]; rfl
  have collected : ∀ b : Binding, b.collect now h =
      let read := b.group.collect now h
      let next := ({ b with group := read.next }.addRound (b.roundOf read.result)).addClock read.host
      ⟨read.result.map fun _ => (), next.1, next.2⟩ := fun _ => rfl
  obtain ⟨hosts, nexts⟩ := ((alike.withGroup (b.group.collect now h).next).addRound
    (b.roundOf (b.group.collect now h).result)).addClock (b.group.collect now h).host
  dsimp only
  rw [collected b, collected b', group, round]
  exact ⟨rfl, hosts, nexts⟩

theorem blind_stop : Blind Binding.stop := by
  intro b b' h alike
  obtain ⟨bare, same⟩ := alike
  rw [bare]
  exact ⟨rfl, rfl, rfl, totals_flushInto same b.scopes b.eventNames⟩

theorem blind_scopeStep (call : ScopeCall) (id : UInt16) (mask : ScopeMask) (tid : Int32) :
    Blind (scopeStep call id mask tid) := by
  intro b b' h alike
  obtain ⟨bare, same⟩ := alike
  rw [bare]
  have route : Binding.route { b with results := b'.results } mask tid = b.route mask tid := rfl
  unfold scopeStep
  rw [route]
  cases b.route mask tid with
  | none => exact ⟨rfl, rfl, rfl, same⟩
  | some isOwn =>
    cases call with
    | start =>
      simp only [Binding.scopeStart]
      cases (b.group.collectScope id false h).result <;> exact ⟨rfl, rfl, rfl, same⟩
    | stop =>
      have fault : Binding.maskFault? { b with results := b'.results } id mask =
          b.maskFault? id mask := rfl
      simp only [Binding.scopeStop, fault]
      cases b.maskFault? id mask with
      | some fault => exact ⟨rfl, rfl, rfl, same⟩
      | none =>
        dsimp only
        cases (b.group.collectScope id true h).result <;> exact ⟨rfl, rfl, rfl, same⟩

variable {op : Binding → Host → Outcome Binding (Except Error Unit)} {bs bs' : List Binding}

/-- A sweep over alike bindings answers alike, does the same to the machine, and leaves them
alike. -/
theorem Blind.sweep (blind : Blind op) (notice : Binding → Error → Notice)
    (notices : ∀ (b b' : Binding) e, b.Alike b' → notice b' e = notice b e)
    (alike : List.Forall₂ Binding.Alike bs bs') (h : Host) :
    (sweep op notice bs' h).result = (sweep op notice bs h).result ∧
      (sweep op notice bs' h).host = (sweep op notice bs h).host ∧
      List.Forall₂ Binding.Alike (sweep op notice bs h).next (sweep op notice bs' h).next := by
  induction alike generalizing h with
  | nil => exact ⟨rfl, rfl, .nil⟩
  | @cons b b' bs bs' head _ ih =>
    obtain ⟨result, host, next⟩ := blind b b' h head
    have turn : stepHost op notice b' h = stepHost op notice b h := by
      unfold stepHost
      rw [result, host]
      cases (op b h).result with
      | ok _ => rfl
      | error e => exact congrArg (Host.note _) (notices _ _ e next)
    obtain ⟨results, hosts, nexts⟩ := ih (stepHost op notice b h)
    rw [sweep_cons, sweep_cons, turn, result, results, hosts]
    exact ⟨rfl, rfl, .cons next nexts⟩

theorem closeBindings_alike (alike : List.Forall₂ Binding.Alike bs bs') (h : Host) :
    closeBindings bs' h = closeBindings bs h := by
  unfold closeBindings
  induction alike generalizing h with
  | nil => rfl
  | @cons b b' bs bs' head _ ih =>
    have group : b'.group = b.group := by rw [head.bare]
    rw [List.foldl_cons, List.foldl_cons, ih, Binding.deinit, group, Binding.deinit]

/-- Starting alike bindings does the same to all, whether it succeeds or is taken back. -/
theorem startAll_alike {started started' : List Binding}
    (begun : List.Forall₂ Binding.Alike started started')
    (alike : List.Forall₂ Binding.Alike bs bs') (h : Host) :
    (startAll started' bs' h).result = (startAll started bs h).result ∧
      (startAll started' bs' h).host = (startAll started bs h).host ∧
      List.Forall₂ Binding.Alike (startAll started bs h).next (startAll started' bs' h).next := by
  induction alike generalizing started started' h with
  | nil => exact ⟨rfl, rfl, begun⟩
  | @cons b b' bs bs' head rest ih =>
    have same : b'.start h = b.start h := by
      rw [head.bare]
      rfl
    have name : b'.name = b.name := by rw [head.bare]
    unfold startAll
    rw [same]
    rcases b.start h with ⟨result, h'⟩
    cases result with
    | ok _ => exact ih (List.rel_append begun (.cons head .nil)) h'
    | error e =>
      have notices : ∀ (b b' : Binding) (e : Error), b.Alike b' →
          Notice.stopFailed b'.name e = .stopFailed b.name e := by
        intro b b' e alike
        rw [alike.bare]
      obtain ⟨_, hosts, nexts⟩ :=
        blind_stop.sweep _ notices begun (h'.note (.startFailed b.name e))
      dsimp only
      rw [name]
      exact ⟨rfl, hosts, List.rel_append nexts (.cons head rest)⟩

end Collector

end ScopeMeter

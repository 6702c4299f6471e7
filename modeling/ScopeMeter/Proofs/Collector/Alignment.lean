import Mathlib
import ScopeMeter.Proofs.Binding.Alignment
import ScopeMeter.Proofs.Collector.Planned

/-!
# Rounds of all bindings

Whatever is done with a collector and whichever calls fail, the series of all events of all its
bindings have one shape (`aligned_series`).  Every act treats the bindings alike: a round, a stop,
the stops that take back a start that failed, summing up and forgetting each change all shapes in
the same way.  `Engine.roundsOf` keeps the log of these changes beside a run (`Engine.Paced`).
-/

namespace ScopeMeter

namespace Engine

/-- The series of all events have one shape, in every binding whose names keep them apart. -/
def Aligned (e : Engine) : Prop :=
  ∃ shape, ∀ b ∈ e.bindings, b.WellNamed → b.Even shape

variable {e : Engine}

/-- What an act does to the log of the rounds: the log starts anew when bindings are opened, when
they are closed, and when their series are forgotten. -/
def nextRounds (e : Engine) (log : RoundLog) : Act → RoundLog
  | .init site => if e.answer (.init site) then {} else log
  | .deinit => {}
  | .collect _ => if e.collector.collecting then log.add else log
  | .clear => if e.collector.collecting then log else {}
  | .summarize => log.settle
  | _ => log

/-- The log of the rounds in the course of a run. -/
def roundsOf : Engine → RoundLog → List Act → RoundLog
  | _, log, [] => log
  | e, log, a :: acts => (e.next a).roundsOf (e.nextRounds log a) acts

/-- All bindings have taken the rounds of a log. -/
def Paced (e : Engine) (log : RoundLog) : Prop := ∀ b ∈ e.bindings, b.Paced log

variable {log log' : RoundLog}

/-- A step that every binding takes. -/
theorem Paced.of_forall₂ {e' : Engine} (paced : e.Paced log) {R : Binding → Binding → Prop}
    (related : List.Forall₂ R e.bindings e'.bindings)
    (step : ∀ b b' : Binding, R b b' → b.Paced log → b'.Paced log') : e'.Paced log' := by
  intro b' member
  obtain ⟨b, mem, stepped⟩ := Collector.exists_of_mem_right related member
  exact step b b' stepped (paced b mem)

theorem Paced.init (paced : e.Paced log) (site : Site) :
    (e.next (.init site)).Paced (e.nextRounds log (.init site)) := by
  rw [nextRounds, answer_init_eq]
  rcases e.init_cases site with ⟨prepared, next⟩ | ⟨unprepared, ⟨plan, bindings, ready, next⟩ |
    ⟨_, refused, next⟩⟩
  · rw [next, decide_eq_false prepared]
    exact paced
  · rw [next, decide_eq_true unprepared, ready]
    intro b member
    obtain ⟨_, _, _, opened⟩ := Collector.prepare_opened ready
    obtain ⟨spec, _, h, rfl⟩ := Plan.exists_opened opened member
    exact spec.binding.paced_init rfl rfl _ h
  · rw [next, decide_eq_true unprepared, refused]
    exact paced

theorem Paced.start (paced : e.Paced log) : (e.next .start).Paced log := by
  -- What was started before a failure is stopped again, the other bindings stay as they are.
  have stepped : ∀ b b' : Binding, (b' = b ∨ ∃ h, b' = (b.stop h).next) →
      b.Paced log → b'.Paced log := by
    rintro b b' (rfl | ⟨h, rfl⟩) paced
    · exact paced
    · exact paced.stop h
  have related := Collector.startAll_forall₂ [] e.bindings e.host
  rcases e.start_cases with ⟨_, _, same⟩ | ⟨_, _, same⟩ |
    ⟨_, _, ⟨_, _, next⟩ | ⟨_, _, next⟩⟩
  · rw [same]
    exact paced
  · rw [same]
    exact paced
  · rw [next]
    exact paced.of_forall₂ related stepped
  · rw [next]
    exact paced.of_forall₂ related stepped

/-- Every act does to all bindings what it does to the log, whatever it answers. -/
theorem Paced.next (paced : e.Paced log) (a : Act) : (e.next a).Paced (e.nextRounds log a) := by
  cases a with
  | init site => exact paced.init site
  | start => exact paced.start
  | deinit => exact fun _ member => absurd member List.not_mem_nil
  | stop =>
    rw [next_stop]
    split
    · refine paced.of_forall₂ (Collector.sweep_forall₂ e.bindings e.host) ?_
      rintro b _ ⟨h, rfl⟩ paced
      exact paced.stop h
    · exact paced
  | collect now =>
    rw [next_collect, nextRounds]
    split
    · refine paced.of_forall₂ (Collector.sweep_forall₂ e.bindings e.host) ?_
      rintro b _ ⟨h, rfl⟩ paced
      exact paced.collect now h
    · exact paced
  | scope call id mask tid =>
    rw [next_scope]
    split
    · refine paced.of_forall₂ (Collector.sweep_forall₂ e.bindings e.host) ?_
      rintro b _ ⟨h, rfl⟩ paced
      unfold Collector.scopeStep
      split
      · exact paced
      · cases call with
        | start => exact paced.scopeStart id mask h
        | stop => exact paced.scopeStop id mask _ h
    · exact paced
  | clear =>
    rw [next_clear, nextRounds]
    split
    · exact paced
    · refine paced.of_forall₂ (List.forall₂_map_right_iff.2 (List.forall₂_same.2 fun _ _ => rfl)) ?_
      rintro _ b rfl paced
      exact paced.clear
  | summarize =>
    refine paced.of_forall₂ (List.forall₂_map_right_iff.2 (List.forall₂_same.2 fun _ _ => rfl)) ?_
    rintro _ b rfl paced
    exact paced.summarize
  | postprocess => exact paced
  | outside stimulus => exact paced

theorem Paced.run (paced : e.Paced log) (acts : List Act) :
    (e.run acts).Paced (e.roundsOf log acts) := by
  induction acts generalizing e log with
  | nil => exact paced
  | cons a acts ih => exact ih (paced.next a)

theorem Paced.aligned (paced : e.Paced log) : e.Aligned :=
  ⟨log.shape, fun b member named => (paced b member).even named⟩

theorem paced_fresh (name : String) (config : Json) (perApi : Bool) (h : Host) :
    (fresh name config perApi h).Paced {} :=
  fun _ member => absurd member List.not_mem_nil

/-- After every run of a collector, whichever calls fail in it: the series of all events of all
bindings are equally long and summed up equally far, a missing series counting as an empty one,
and they are present all or none; and so are, within each binding, the series of its scopes. -/
theorem aligned_series (name : String) (config : Json) (perApi : Bool) (h : Host)
    (acts : List Act) :
    let e := (fresh name config perApi h).run acts
    (∀ b ∈ e.bindings, ∀ c ∈ e.bindings, b.WellNamed → c.WellNamed →
      ∀ m ∈ b.eventNames, ∀ n ∈ c.eventNames,
        (b.series m).size = (c.series n).size ∧
          (b.series m).settled.length = (c.series n).settled.length ∧
          ((b.results.get? m).isSome ↔ (c.results.get? n).isSome)) ∧
    ∀ b ∈ e.bindings, b.WellNamed →
      ∀ m ∈ Accumulator.scopeNames b.eventNames, ∀ n ∈ Accumulator.scopeNames b.eventNames,
        (b.series m).size = (b.series n).size ∧
          (b.series m).settled.length = (b.series n).settled.length := by
  intro e
  have aligned : e.Aligned := ((paced_fresh name config perApi h).run acts).aligned
  have alike : ∀ {s t : Series}, s.shape = t.shape →
      s.size = t.size ∧ s.settled.length = t.settled.length := by
    intro s t same
    rw [Series.size_eq, Series.size_eq, same]
    exact ⟨rfl, congrArg Prod.fst same⟩
  obtain ⟨shape, even⟩ := aligned
  constructor
  · intro b memb c memc namedb namedc m hm n hn
    have evenb := even b memb namedb
    have evenc := even c memc namedc
    obtain ⟨sizes, settled⟩ := alike ((evenb.events m hm).trans (evenc.events n hn).symm)
    exact ⟨sizes, settled, (evenb.present m hm).trans (evenc.present n hn).symm⟩
  · intro b memb named m hm n hn
    obtain ⟨scopeShape, scopes⟩ := (even b memb named).scopes
    exact alike ((scopes m hm).trans (scopes n hn).symm)

/-- A round, a scope and a stop, the summing up of all, and the next period. -/
def samplePeriods : List Act :=
  [.init sampleSite, .start, .scope .start 2 ⟨4⟩ 1, .outside (.tick (-1) none [5]), .collect 1,
    .scope .stop 2 ⟨4⟩ 1, .stop, .summarize, .start, .collect 2]

theorem aligned_series_samplePeriods :
    ∃ b ∈ (sampleEngine.run samplePeriods).bindings, b.WellNamed ∧
      b.eventNames = ["flits", "stalls"] ∧
      (b.series "flits").size = (b.series "stalls").size ∧
        (b.series "flits").settled.length = (b.series "stalls").settled.length ∧
        ((b.results.get? "flits").isSome ↔ (b.results.get? "stalls").isSome) ∧
        (b.series "flits:ScopeSum").size = (b.series "CCthread:ScopeNumCalls").size ∧
        (b.series "flits:ScopeSum").settled.length =
          (b.series "CCthread:ScopeNumCalls").settled.length := by
  have opened : (sampleEngine.run samplePeriods).bindings[0]?.map (·.eventNames) =
      some ["flits", "stalls"] := by
    cbv
  obtain ⟨b, bound, names⟩ := Option.map_eq_some_iff.1 opened
  have member := List.mem_of_getElem? bound
  have named : b.WellNamed := ⟨by rw [names]; decide, by rw [names]; decide⟩
  obtain ⟨events, scopes⟩ := aligned_series "perf" _ false {} samplePeriods
  obtain ⟨sizes, settled, present⟩ := events b member b member named named "flits"
    (by rw [names]; decide) "stalls" (by rw [names]; decide)
  exact ⟨b, member, named, names, sizes, settled, present, scopes b member named "flits:ScopeSum"
    (by rw [names]; decide) "CCthread:ScopeNumCalls" (by rw [names]; decide)⟩

end Engine

end ScopeMeter

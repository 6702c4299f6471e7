import ScopeMeter.Proofs.Collector.Planned

/-!
# Bindings between periods

A binding is idle when it holds the mask of no scope and no sum that waits to be flushed; to stop
such a binding changes nothing about it.  A stop leaves a binding idle, and rounds and scopes are
taken only while a collector is started.  So all bindings are idle whenever it is not
(`Engine.Rested.run`).
-/

namespace ScopeMeter

namespace Binding

/-- No scope is being summed up, and nothing waits to be flushed. -/
structure Idle (b : Binding) : Prop where
  mask : b.scopeMask = none
  level : b.scopes.Level 0

variable {b : Binding}

theorem Idle.next_stop (idle : b.Idle) (h : Host) : (b.stop h).next = b := by
  have results := idle.level.flushInto_eq b.eventNames b.results
  have scopes := idle.level.flushed_eq b.eventNames
  have stopped : (b.stop h).next = { b with
      scopeMask := none
      results := b.scopes.flushInto b.eventNames b.results
      scopes := b.scopes.flushed b.eventNames } := rfl
  rw [stopped, results, scopes, ← idle.mask]

theorem idle_stop (fitted : b.Fitted) (h : Host) : (b.stop h).next.Idle := by
  refine ⟨rfl, Accumulator.level_flushed (Nat.le_of_eq ?_)⟩
  have names := congrArg List.length fitted.eventNames
  rw [Group.names, List.length_map] at names
  exact fitted.sums.trans names.symm

theorem idle_init (b : Binding) (unmasked : b.scopeMask = none) (events : List Event) (h : Host) :
    (b.init events h).next.Idle :=
  ⟨unmasked, Accumulator.level_new _⟩

end Binding

namespace Collector

/-- When the bindings are idle, a start changes none of them, whether it succeeds or not. -/
theorem next_startAll {started bs : List Binding} (idle : ∀ b ∈ started ++ bs, b.Idle) (h : Host) :
    (startAll started bs h).next = started ++ bs := by
  have become := startAll_forall₂ started bs h
  generalize (startAll started bs h).next = after at become ⊢
  generalize started ++ bs = before at idle become ⊢
  induction become with
  | nil => rfl
  | cons head _ ih =>
    rw [ih fun b member => idle b (List.mem_cons_of_mem _ member)]
    rcases head with rfl | ⟨h, rfl⟩
    · rfl
    · rw [(idle _ List.mem_cons_self).next_stop h]

end Collector

namespace Engine

variable {e : Engine}

/-- The bindings are idle while the collector is not started. -/
def Rested (e : Engine) : Prop := e.collector.state ≠ .started → ∀ b ∈ e.bindings, b.Idle

theorem Rested.init (rested : e.Rested) (site : Site) : (e.next (.init site)).Rested := by
  rcases e.init_cases site with ⟨_, next⟩ | ⟨_, ⟨plan, bindings, ready, next⟩ | ⟨_, _, next⟩⟩
  · rw [next]
    exact rested
  · rw [next]
    intro _ b member
    obtain ⟨_, _, _, opened⟩ := Collector.prepare_opened ready
    obtain ⟨spec, _, h, rfl⟩ := Plan.exists_opened opened member
    exact spec.binding.idle_init rfl _ h
  · rw [next]
    exact rested

theorem Rested.start (rested : e.Rested) : (e.next .start).Rested := by
  rcases e.start_cases with ⟨_, _, same⟩ | ⟨_, _, same⟩ | ⟨idle, _, ⟨_, _, next⟩ | ⟨_, _, next⟩⟩
  · rw [same]
    exact rested
  · rw [same]
    exact rested
  · rw [next]
    exact fun stopped => absurd rfl stopped
  · rw [next]
    intro _ b member
    rw [Engine.bindings, Collector.next_startAll (rested idle)] at member
    exact rested idle b member

theorem Rested.next (valid : e.Valid) (rested : e.Rested) (a : Act) : (e.next a).Rested := by
  -- Whatever is done while rounds are taken is done while the collector is started.
  have busy : ∀ {e' : Engine}, e.collector.collecting → e'.collector.state = e.collector.state →
      e'.Rested := by
    intro e' collecting state idle
    exact absurd (state.trans (valid.collecting.mp collecting)) idle
  -- Summing up and forgetting series leave scopes alone.
  have mapped : ∀ {e' : Engine} (f : Binding → Binding), (∀ b : Binding, b.Idle → (f b).Idle) →
      e'.bindings = e.bindings.map f → e'.collector.state = e.collector.state → e'.Rested := by
    intro e' f keeps bindings state idle b' member
    rw [bindings] at member
    obtain ⟨b, mem, rfl⟩ := List.mem_map.mp member
    exact keeps b (rested (state ▸ idle) b mem)
  cases a with
  | init site => exact rested.init site
  | deinit => exact fun _ _ member => absurd member List.not_mem_nil
  | start => exact rested.start
  | stop =>
    rw [next_stop]
    split
    · intro _ b' member
      obtain ⟨b, mem, h, rfl⟩ := Collector.exists_of_mem_right
        (Collector.sweep_forall₂ e.bindings e.host) member
      exact Binding.idle_stop (valid.owned.holds b mem).1 h
    · exact rested
  | collect now =>
    rw [next_collect]
    split
    next collecting => exact busy collecting rfl
    next => exact rested
  | scope call id mask tid =>
    rw [next_scope]
    split
    next collecting => exact busy collecting rfl
    next => exact rested
  | clear =>
    rw [next_clear]
    split
    · exact rested
    · exact mapped Binding.clear (fun _ idle => ⟨idle.mask, idle.level⟩) rfl rfl
  | summarize => exact mapped Binding.summarize (fun _ idle => ⟨idle.mask, idle.level⟩) rfl rfl
  | postprocess => exact rested
  | outside stimulus => exact rested

theorem Rested.run (valid : e.Valid) (rested : e.Rested) (acts : List Act) :
    (e.run acts).Rested := by
  induction acts generalizing e with
  | nil => exact rested
  | cons a acts ih => exact ih (valid.next a) (rested.next valid a)

theorem rested_fresh (name : String) (config : Json) (perApi : Bool) (h : Host) :
    (fresh name config perApi h).Rested :=
  fun _ _ member => absurd member List.not_mem_nil

end Engine

end ScopeMeter

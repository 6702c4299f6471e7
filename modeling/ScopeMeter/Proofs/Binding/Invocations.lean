import ScopeMeter.Proofs.Collector.Planned
import ScopeMeter.Proofs.Scope.Invocations

/-!
# What scope calls add to the sums of a binding

A scope call that reaches a binding and succeeds there as a stop is an invocation of the scope, and
only such a call changes the sums of the binding (`Binding.scopes_scopeStep`).  Whether it counts
as one of the own thread depends on the binding alone; so of a binding of a thread all counted
calls are own ones, and of a binding of a whole device none is (`Engine.lasting_ownCounted`).
-/

namespace ScopeMeter

namespace Binding

variable {b b' : Binding}

/-- The invocation that a scope call makes of a binding on a machine. -/
def invocation? (b : Binding) (call : ScopeCall) (id : UInt16) (mask : ScopeMask) (tid : Int32)
    (h : Host) : Option Invocation :=
  match call, b.route mask tid with
  | .stop, some isOwn =>
    match (b.scopeStop id mask isOwn h).result, (b.group.read h).1 with
    | .ok _, .ok stop =>
      some (.between b.scopes.sums.length id isOwn b.group.scope.start stop)
    | _, _ => none
  | _, _ => none

/-- A scope call adds its invocation to the sums of a binding, and nothing if it is none. -/
theorem scopes_scopeStep (b : Binding) (call : ScopeCall) (id : UInt16) (mask : ScopeMask)
    (tid : Int32) (h : Host) :
    let next := (Collector.scopeStep call id mask tid b h).next
    (b.invocation? call id mask tid h = none ∧ next.scopes = b.scopes) ∨
    ∃ isOwn stop, b.route mask tid = some isOwn ∧
      b.invocation? call id mask tid h =
        some (.between b.scopes.sums.length id isOwn b.group.scope.start stop) ∧
      next.scopes = b.scopes.record id isOwn b.group.scope.start stop := by
  intro next
  have become : next = (Collector.scopeStep call id mask tid b h).next := rfl
  unfold Collector.scopeStep at become
  cases reached : b.route mask tid with
  | none =>
    rw [reached] at become
    refine .inl ⟨?_, by rw [become]⟩
    cases call <;> simp only [invocation?, reached]
  | some isOwn =>
    rw [reached] at become
    cases call with
    | start =>
      refine .inl ⟨rfl, ?_⟩
      rcases (b.scopeStart_cases id mask h).2 with ⟨_, _, same⟩ | ⟨_, _, _, _, same⟩
      · rw [become, same]
      · rw [become, same]
    | stop =>
      simp only [invocation?, reached]
      rcases (b.scopeStop_cases id mask isOwn h).2 with ⟨e, failed, same⟩ |
        ⟨stop, _, _, read, ok, same⟩
      · refine .inl ⟨?_, by rw [become, same]⟩
        simp only [failed]
      · refine .inr ⟨isOwn, stop, rfl, ?_, by rw [become, same]⟩
        simp only [ok, read]

/-! ## Calls of the own thread -/

theorem boundTid_of_spec (spec : b'.spec = b.spec) : b'.boundTid = b.boundTid := by
  rw [Binding.spec, Binding.spec, BindingSpec.mk.injEq] at spec
  rw [boundTid, boundTid, spec.1, spec.2.2.2]

/-- A call that reaches a binding is an own one exactly if the binding follows a thread. -/
theorem isOwn_of_route {mask : ScopeMask} {tid : Int32} {isOwn : Bool}
    (reached : b.route mask tid = some isOwn) : isOwn = b.boundTid.isSome := by
  unfold route routeScope at reached
  split at reached
  · cases follows : b.boundTid with
    | none =>
      rw [follows] at reached
      cases reached
      rfl
    | some own =>
      rw [follows] at reached
      dsimp only at reached
      split at reached
      · cases reached
        rfl
      · cases reached
  · cases reached

/-- Of a binding of a thread all counted calls are its own, of one of a device none is. -/
def OwnCounted (b : Binding) : Prop :=
  match b.boundTid with
  | some _ => b.scopes.ownCalls = b.scopes.calls
  | none => ∀ n ∈ b.scopes.ownCalls, n = 0

theorem OwnCounted.of_same (counted : b.OwnCounted) (bound : b'.boundTid = b.boundTid)
    (scopes : b'.scopes = b.scopes) : b'.OwnCounted := by
  rw [OwnCounted, bound, scopes]
  exact counted

theorem addToSlot_zeros {slots : List Int64} (zeros : ∀ n ∈ slots, n = 0) (slot : Nat) :
    ∀ n ∈ addToSlot slots slot 0, n = 0 := by
  intro n member
  obtain ⟨i, found⟩ := List.mem_iff_getElem?.mp member
  have old : slots[i]?.getD 0 = 0 := by
    cases entry : slots[i]? with
    | none => rfl
    | some m => exact zeros m (List.mem_of_getElem? entry)
  rw [getElem?_addToSlot, old] at found
  split at found
  · cases found
    split <;> rfl
  · cases found

theorem OwnCounted.scopeStep (counted : b.OwnCounted) (call : ScopeCall) (id : UInt16)
    (mask : ScopeMask) (tid : Int32) (h : Host) :
    (Collector.scopeStep call id mask tid b h).next.OwnCounted := by
  have bound := boundTid_of_spec (b.spec_scopeStep call id mask tid h)
  rcases b.scopes_scopeStep call id mask tid h with ⟨_, scopes⟩ | ⟨isOwn, _, reached, _, scopes⟩
  · exact counted.of_same bound scopes
  · have own := isOwn_of_route reached
    unfold OwnCounted at counted ⊢
    rw [bound, scopes, Accumulator.record]
    cases follows : b.boundTid with
    | some tid =>
      rw [follows] at counted own
      have calls : b.scopes.ownCalls = b.scopes.calls := counted
      simp only [own, calls, Option.isSome_some, Bool.and_true, decide_eq_true_eq]
    | none =>
      rw [follows] at counted own
      simp only [own, Option.isSome_none, Bool.and_false]
      exact addToSlot_zeros counted _

end Binding

theorem Engine.lasting_ownCounted : Lasting Binding.OwnCounted where
  opened := by
    rintro p spec b ⟨h, rfl⟩
    unfold Binding.OwnCounted
    split
    · rfl
    · exact List.forall_mem_nil _
  moved := by
    intro b b' moved counted
    have bound : b'.boundTid = b.boundTid := Binding.boundTid_of_spec moved.spec_eq
    cases moved with
    | stay => exact counted
    | collect now h =>
      obtain ⟨_, _, _, next⟩ := b.collect_eq now h
      rw [next] at bound ⊢
      exact counted.of_same bound rfl
    | scope call id mask tid h => exact counted.scopeStep call id mask tid h
    | stop h =>
      unfold Binding.OwnCounted
      split
      · rfl
      · exact List.forall_mem_nil _
    | summarize => exact counted.of_same bound rfl
    | clear => exact counted.of_same bound rfl

end ScopeMeter

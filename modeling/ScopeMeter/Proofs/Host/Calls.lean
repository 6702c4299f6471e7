import ScopeMeter.Proofs.Host.Switches

/-!
# Which calls are made

`Host.Made` tells the calls that were made between two moments of a machine; handles that they
opened were not in use before.  `Host.Grown` tells the counters that were opened meanwhile and are
still open, none of them switched on.  Opening a counter and controlling a group each make one
call, and either it fails or it does what was asked.
-/

namespace ScopeMeter

/-- The handle that a call has opened. -/
def CallRecord.opened? : CallRecord → Option Nat
  | opened _ _ _ _ handle => some handle
  | _ => none

/-- One of the calls has failed. -/
def Foiled (calls : List CallRecord) : Prop := ∃ call ∈ calls, call.failure? ≠ none

variable {calls calls' : List CallRecord}

theorem Foiled.append_left (foiled : Foiled calls') (calls : List CallRecord) :
    Foiled (calls ++ calls') := by
  obtain ⟨call, member, failed⟩ := foiled
  exact ⟨call, List.mem_append_right _ member, failed⟩

theorem foiled_singleton {call : CallRecord} (failed : call.failure? ≠ none) : Foiled [call] :=
  ⟨call, List.mem_singleton_self _, failed⟩

namespace Host

/-- These calls were made between two moments of a machine. -/
structure Made (h h' : Host) (calls : List CallRecord) : Prop where
  trace : h'.trace = h.trace ++ calls
  nextHandle_le : h.nextHandle ≤ h'.nextHandle
  fresh : ∀ call ∈ calls, ∀ handle, call.opened? = some handle → h.nextHandle ≤ handle

/-- These counters, and no others, were opened between two moments of a machine; none was closed,
and none was switched on. -/
structure Grown (h h' : Host) (counters : List LiveCounter) : Prop where
  identities : h'.identities = h.identities ++ counters
  nextHandle : h'.nextHandle = h.nextHandle + counters.length
  idle : (h.Running fun _ => False) → h'.Running fun _ => False

variable {h h₁ h₂ : Host} {counters counters' : List LiveCounter}

theorem Made.refl (h : Host) : Made h h [] :=
  ⟨(List.append_nil _).symm, Nat.le_refl _, List.forall_mem_nil _⟩

theorem Made.trans (first : Made h h₁ calls) (second : Made h₁ h₂ calls') :
    Made h h₂ (calls ++ calls') := by
  refine ⟨?_, Nat.le_trans first.nextHandle_le second.nextHandle_le, ?_⟩
  · rw [second.trace, first.trace, List.append_assoc]
  · intro call member handle opens
    rcases List.mem_append.mp member with old | new
    · exact first.fresh call old handle opens
    · have fresh := second.fresh call new handle opens
      have later := first.nextHandle_le
      omega

/-- A change that makes no call and uses no handle. -/
theorem Made.of_eq (made : Made h h₁ calls) (trace : h₂.trace = h₁.trace)
    (nextHandle : h₂.nextHandle = h₁.nextHandle) : Made h h₂ calls :=
  ⟨trace.trans made.trace, nextHandle.symm ▸ made.nextHandle_le, made.fresh⟩

theorem Grown.refl (h : Host) : Grown h h [] := ⟨(List.append_nil _).symm, rfl, id⟩

theorem Grown.trans (first : Grown h h₁ counters) (second : Grown h₁ h₂ counters') :
    Grown h h₂ (counters ++ counters') := by
  refine ⟨?_, ?_, second.idle ∘ first.idle⟩
  · rw [second.identities, first.identities, List.append_assoc]
  · rw [second.nextHandle, first.nextHandle, List.length_append, Nat.add_assoc]

theorem Grown.of_unchanged (unchanged : Unchanged h h₁) : Grown h h₁ [] :=
  ⟨unchanged.same.identities.trans (List.append_nil _).symm, unchanged.nextHandle,
    fun idle => idle.of_unchanged unchanged⟩

/-! ## One call -/

/-- Opening a counter is refused, or opens it with the next handle. -/
theorem openCounter_made (h : Host) (a : Attributes) (tid cpu : Int32) (leader : Option Nat) :
    (∃ fault number, (h.openCounter a tid cpu leader).1 = .error fault ∧
      Made h (h.openCounter a tid cpu leader).2 [.refused a tid cpu leader number]) ∨
    ((h.openCounter a tid cpu leader).1 = .ok h.nextHandle ∧
      Made h (h.openCounter a tid cpu leader).2 [.opened a tid cpu leader h.nextHandle] ∧
      Grown h (h.openCounter a tid cpu leader).2
        [{ handle := h.nextHandle, leader := leader.getD h.nextHandle, tid, type := a.type,
           config := a.config }]) := by
  unfold openCounter
  rcases met : h.fire .opening ⟨tid, a.type, a.config⟩ with ⟨effect, h'⟩
  have trace : h'.trace = h.trace := by
    cases met
    rfl
  have same := unchanged_of_fire met
  split
  next number h'' shape =>
    cases shape
    refine .inl ⟨_, number, rfl, ?_, ?_, ?_⟩
    · simp only [record, trace]
    · exact Nat.le_of_eq same.nextHandle.symm
    · intro call member handle opens
      rw [List.mem_singleton.mp member] at opens
      cases opens
  next effect' h'' _ shape =>
    cases shape
    refine .inr ⟨?_, ⟨?_, ?_, ?_⟩, ?_, ?_, ?_⟩
    · simp only [same.nextHandle]
    · simp only [record, trace, same.nextHandle]
    · simp only [record, same.nextHandle]
      omega
    · intro call member handle opens
      rw [List.mem_singleton.mp member] at opens
      cases opens
      exact Nat.le_refl _
    · simp only [record, identities, same.counters, same.nextHandle, List.map_append]
      rfl
    · simp only [record, same.nextHandle, List.length_singleton]
    · intro idle c member
      simp only [record, same.counters, List.mem_append, List.mem_singleton] at member
      rcases member with old | rfl
      · exact idle c old
      · exact iff_of_false Bool.false_ne_true id

/-- A control call fails or succeeds. -/
theorem control_made (h : Host) (control : Control) (leader : Nat) :
    (∃ fault number, (h.control control leader).1 = .error fault ∧
      Made h (h.control control leader).2 [.controlled control leader (some number)]) ∨
    ((h.control control leader).1 = .ok () ∧
      Made h (h.control control leader).2 [.controlled control leader none]) := by
  have none : ∀ failure, ∀ call ∈ [CallRecord.controlled control leader failure],
      ∀ handle, call.opened? = some handle → h.nextHandle ≤ handle := by
    intro failure call member handle opens
    rw [List.mem_singleton.mp member] at opens
    cases opens
  unfold Host.control
  rcases met : h.fire (.control control) (h.subjectOf leader) with ⟨effect, h'⟩
  have trace : h'.trace = h.trace := by
    cases met
    rfl
  have later : h.nextHandle ≤ h'.nextHandle := Nat.le_of_eq (unchanged_of_fire met).nextHandle.symm
  split
  next number h'' shape =>
    cases shape
    refine .inl ⟨_, number, rfl, ?_, later, none _⟩
    simp only [record, trace]
  next effect' h'' _ shape =>
    cases shape
    refine .inr ⟨rfl, ?_, later, none _⟩
    simp only [record, updateGroup, trace]

/-- Zeroing and stopping groups opens no counter and switches none on. -/
theorem grown_control (h : Host) {control : Control} (leader : Nat) (stills : control ≠ .enable) :
    Grown h (h.control control leader).2 [] := by
  have same := h.sameCounters_control control leader
  refine ⟨same.identities.trans (List.append_nil _).symm, same.nextHandle, ?_⟩
  intro idle
  cases control with
  | reset => exact idle.reset leader
  | enable => exact absurd rfl stills
  | disable =>
    rcases h.control_cases .disable leader with ⟨_, _, unchanged⟩ | ⟨ok, _⟩
    · exact idle.of_unchanged unchanged
    · exact (idle.disable_ok ok).congr fun _ => ⟨And.left, False.elim⟩

/-- A group that the kernel does not refuse to stop is stopped. -/
theorem Running.disable {on : Nat → Prop} (running : h.Running on) (leader : Nat)
    (stops : (h.control .disable leader).2.failedStops ≤ h.failedStops) :
    (h.control .disable leader).2.Running fun other => on other ∧ other ≠ leader := by
  rcases h.control_made .disable leader with ⟨_, number, _, made⟩ | ⟨ok, _⟩
  · have one : ([CallRecord.controlled .disable leader (some number)].countP
        CallRecord.isFailedStop) = 1 := rfl
    rw [failedStops, made.trace, List.countP_append, one, failedStops] at stops
    omega
  · exact running.disable_ok ok

end Host

end ScopeMeter

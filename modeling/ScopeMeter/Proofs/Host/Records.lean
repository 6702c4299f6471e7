import ScopeMeter.Proofs.Host.Counters

/-!
# Machines that differ in their records

Two machines are `Alike` when they are the same but for the records of their calls and notices.  No
call looks at the records, so alike machines answer a call alike and stay alike.
-/

namespace ScopeMeter.Host

/-- The same machines but for the records of calls and notices. -/
def Alike (h h' : Host) : Prop := ∃ trace log, h' = { h with trace, log }

variable {h h' : Host}

theorem Alike.refl (h : Host) : h.Alike h := ⟨h.trace, h.log, rfl⟩

theorem Alike.trans {k : Host} (first : h.Alike h') (second : h'.Alike k) : h.Alike k := by
  obtain ⟨_, _, rfl⟩ := first
  obtain ⟨trace, log, rfl⟩ := second
  exact ⟨trace, log, rfl⟩

theorem Alike.counters (alike : h.Alike h') : h'.counters = h.counters := by
  obtain ⟨trace, log, rfl⟩ := alike
  rfl

theorem alike_note (h : Host) (n : Notice) : h.Alike (h.note n) := ⟨h.trace, _, rfl⟩

theorem Alike.note (alike : h.Alike h') (n : Notice) : (h.note n).Alike (h'.note n) := by
  obtain ⟨trace, log, rfl⟩ := alike
  exact ⟨_, _, rfl⟩

theorem Alike.noteAll (alike : h.Alike h') (ns : List Notice) :
    (h.noteAll ns).Alike (h'.noteAll ns) := by
  obtain ⟨trace, log, rfl⟩ := alike
  exact ⟨_, _, rfl⟩

theorem Alike.meet (alike : h.Alike h') (s : Stimulus) : (h.meet s).Alike (h'.meet s) := by
  obtain ⟨trace, log, rfl⟩ := alike
  cases s <;> exact ⟨_, _, rfl⟩

theorem Alike.record (alike : h.Alike h') (r : CallRecord) :
    (h.record r).Alike (h'.record r) := by
  obtain ⟨trace, log, rfl⟩ := alike
  exact ⟨_, _, rfl⟩

theorem Alike.sampleClock (alike : h.Alike h') :
    h'.sampleClock.1 = h.sampleClock.1 ∧ h.sampleClock.2.Alike h'.sampleClock.2 := by
  obtain ⟨trace, log, rfl⟩ := alike
  obtain ⟨counters, nextHandle, faults, clock, _, _⟩ := h
  cases clock with
  | nil => exact ⟨rfl, trace, log, rfl⟩
  | cons sample rest => exact ⟨rfl, trace, log, rfl⟩

theorem Alike.control (alike : h.Alike h') (control : Control) (leader : Nat) :
    (h'.control control leader).1 = (h.control control leader).1 ∧
      (h.control control leader).2.Alike (h'.control control leader).2 := by
  obtain ⟨trace, log, rfl⟩ := alike
  have subject : Host.subjectOf { h with trace, log } leader = h.subjectOf leader := rfl
  simp only [Host.control, Host.fire, subject]
  rcases FaultRule.fire (.control control) (h.subjectOf leader) h.faults with
    ⟨_ | ⟨number⟩ | ⟨bytes, count⟩, faults⟩ <;> exact ⟨rfl, _, _, rfl⟩

theorem Alike.readRaw (alike : h.Alike h') (leader : Nat) :
    (h'.readRaw leader).1 = (h.readRaw leader).1 ∧
      (h.readRaw leader).2.Alike (h'.readRaw leader).2 := by
  obtain ⟨trace, log, rfl⟩ := alike
  have subject : Host.subjectOf { h with trace, log } leader = h.subjectOf leader := rfl
  simp only [Host.readRaw, Host.fire, subject, Host.group]
  have fits : ∀ {bytes : Nat} {answer : ReadAnswer} {k k' : Host}, k.Alike k' →
      let read (k : Host) : Except Errno ReadAnswer × Host :=
        if 8 * readBufferWords < bytes then
          (.error .noSpace, k.record (.read leader (some .noSpace)))
        else (.ok answer, k.record (.read leader none))
      (read k').1 = (read k).1 ∧ (read k).2.Alike (read k').2 := by
    intro bytes answer k k' alike read
    simp only [read]
    split
    · exact ⟨rfl, alike.record _⟩
    · exact ⟨rfl, alike.record _⟩
  rcases FaultRule.fire .reading (h.subjectOf leader) h.faults with
    ⟨_ | ⟨number⟩ | ⟨bytes, count⟩, faults⟩
  · exact fits ⟨_, _, rfl⟩
  · exact ⟨rfl, _, _, rfl⟩
  · exact fits ⟨_, _, rfl⟩

theorem Alike.readGroup (alike : h.Alike h') (leader room : Nat) :
    (h'.readGroup leader room).1 = (h.readGroup leader room).1 ∧
      (h.readGroup leader room).2.Alike (h'.readGroup leader room).2 := by
  obtain ⟨answer, after⟩ := alike.readRaw leader
  unfold Host.readGroup
  rcases raw : h.readRaw leader with ⟨result, k⟩
  rcases raw' : h'.readRaw leader with ⟨result', k'⟩
  rw [raw, raw'] at answer after
  cases answer
  cases result <;> exact ⟨rfl, after⟩

/-- A read uses up planned faults and is recorded; that is all it does to the machine. -/
theorem alike_readRaw (h : Host) (leader : Nat) :
    Host.Alike { h with faults := (h.readRaw leader).2.faults } (h.readRaw leader).2 := by
  unfold Host.readRaw
  rcases met : h.fire .reading (h.subjectOf leader) with ⟨effect, k⟩
  cases met
  dsimp only
  split
  · exact ⟨_, _, rfl⟩
  · split <;> split <;> exact ⟨_, _, rfl⟩

theorem alike_readGroup (h : Host) (leader room : Nat) :
    Host.Alike { h with faults := (h.readGroup leader room).2.faults }
      (h.readGroup leader room).2 := by
  have raw := h.alike_readRaw leader
  unfold Host.readGroup
  rcases eq : h.readRaw leader with ⟨result, k⟩
  rw [eq] at raw
  cases result <;> exact raw

end ScopeMeter.Host

import Mathlib
import ScopeMeter.Proofs.Scope.Periods

/-!
# An accumulator over its whole history

A `Bracket` is a call of a scope with the snapshots taken at its two ends.  Whatever brackets a new
accumulator has recorded, its arrays say of each slot what the brackets of that slot come to, they
all reach as far as the largest slot recorded, and flushing appends exactly them and leaves an
accumulator that records like a new one (`Accumulator.history`).  The step is
`Accumulator.Tallies.record`; what a bracket comes to is stated here from the snapshots alone.
-/

namespace ScopeMeter

structure Bracket where
  id : UInt16
  /-- Whether the counters' own thread made the call. -/
  isOwn : Bool
  start : Snapshot
  stop : Snapshot

namespace Bracket

/-- Scopes below 1023 have a slot of their own; all others share slot 1023. -/
def slot (b : Bracket) : Nat := if b.id.toNat < 1023 then b.id.toNat else 1023

/-- What a counter advanced by from the start to the stop. -/
def delta (counter : Nat) (b : Bracket) : Int64 := b.stop.value counter - b.start.value counter

/-- Whether so many counters advanced altogether. -/
def advances (counters : Nat) (b : Bracket) : Bool :=
  0 < wrappingSum ((List.range counters).map (b.delta ·))

/-- Whether the number is one beyond those that have a slot. -/
def overflows (b : Bracket) : Bool := 1023 < b.id.toNat

/-- The bracket as an accumulator of so many counters takes it up. -/
def invocation (counters : Nat) (b : Bracket) : Invocation :=
  .between counters b.id b.isOwn b.start b.stop

theorem slot_invocation (counters : Nat) (b : Bracket) : (b.invocation counters).slot = b.slot := by
  show min b.id.toNat 1023 = if b.id.toNat < 1023 then b.id.toNat else 1023
  split <;> omega

theorem slot_le (b : Bracket) : b.slot ≤ 1023 := by
  unfold slot
  split <;> omega

theorem delta_invocation {counters counter : Nat} (covered : counter < counters) (b : Bracket) :
    (b.invocation counters).delta counter = b.delta counter := by
  unfold invocation Invocation.between Invocation.delta Accumulator.deltas
  rw [List.getElem?_map, List.getElem?_range covered]
  rfl

end Bracket

variable {amount : Invocation → Int64} {vs : List Invocation}

/-- Some invocation reaches as far as any. -/
theorem exists_reach (some : reach vs ≠ 0) : ∃ v ∈ vs, reach vs = v.slot + 1 := by
  induction vs with
  | nil => contradiction
  | cons v vs ih =>
    rw [reach_cons]
    rcases Nat.lt_or_ge (v.slot + 1) (reach vs) with behind | ahead
    · obtain ⟨w, member, far⟩ := ih (by omega)
      exact ⟨w, List.mem_cons_of_mem _ member, by rw [Nat.max_eq_right (by omega), far]⟩
    · exact ⟨v, List.mem_cons_self, Nat.max_eq_left ahead⟩

theorem reach_map_le (counters : Nat) (calls : List Bracket) :
    reach (calls.map (Bracket.invocation counters)) ≤ 1024 := by
  by_cases none : reach (calls.map (Bracket.invocation counters)) = 0
  · omega
  · obtain ⟨_, member, far⟩ := exists_reach none
    obtain ⟨b, _, rfl⟩ := List.mem_map.mp member
    rw [far, Bracket.slot_invocation]
    exact Nat.succ_le_succ b.slot_le

/-- The largest slot recorded is where the arrays end. -/
theorem exists_reach_map (counters : Nat) {calls : List Bracket} (some : calls ≠ []) :
    ∃ b ∈ calls, reach (calls.map (Bracket.invocation counters)) = b.slot + 1 ∧
      ∀ c ∈ calls, c.slot ≤ b.slot := by
  have recorded : reach (calls.map (Bracket.invocation counters)) ≠ 0 :=
    fun none => some (List.map_eq_nil_iff.mp (reach_eq_zero_iff.mp none))
  obtain ⟨_, member, far⟩ := exists_reach recorded
  obtain ⟨b, listed, rfl⟩ := List.mem_map.mp member
  rw [Bracket.slot_invocation] at far
  refine ⟨b, listed, far, ?_⟩
  intro c other
  have within := slot_lt_reach (List.mem_map_of_mem (f := Bracket.invocation counters) other)
  rw [Bracket.slot_invocation, far] at within
  exact Nat.le_of_lt_succ within

section Slots

variable (counters : Nat) (calls : List Bracket) (slot : Nat)

/-- The sum of a slot is that of the brackets of the slot. -/
theorem slotSum_delta {counter : Nat} (covered : counter < counters) :
    slotSum (Invocation.delta counter) (calls.map (Bracket.invocation counters)) slot =
      wrappingSum ((calls.filter (·.slot = slot)).map (Bracket.delta counter)) := by
  have same : Invocation.delta counter ∘ Bracket.invocation counters = Bracket.delta counter :=
    funext (Bracket.delta_invocation covered)
  have slots : (fun v : Invocation => decide (v.slot = slot)) ∘ Bracket.invocation counters =
      fun b => decide (b.slot = slot) := by
    funext b
    rw [Function.comp_apply, Bracket.slot_invocation]
  rw [slotSum, List.filter_map, List.map_map, same, slots]

/-- The count of a slot is that of the brackets of the slot. -/
theorem countOf_invocation (p : Invocation → Bool) :
    countOf p (calls.map (Bracket.invocation counters)) slot =
      calls.countP fun b => b.slot = slot && p (b.invocation counters) := by
  rw [countOf, List.countP_map]
  congr 1
  funext b
  rw [Function.comp_apply, Bracket.slot_invocation]

end Slots

namespace Accumulator

/-- The accumulator after some brackets. -/
def recordAll (a : Accumulator) (calls : List Bracket) : Accumulator :=
  calls.foldl (fun a b => a.record b.id b.isOwn b.start b.stop) a

theorem recordAll_cons (a : Accumulator) (b : Bracket) (calls : List Bracket) :
    a.recordAll (b :: calls) = (a.record b.id b.isOwn b.start b.stop).recordAll calls := rfl

theorem length_sums_recordAll (a : Accumulator) (calls : List Bracket) :
    (a.recordAll calls).sums.length = a.sums.length := by
  induction calls generalizing a with
  | nil => rfl
  | cons b calls ih => rw [recordAll_cons, ih, length_sums_record]

/-- Brackets are taken up one by one. -/
theorem Tallies.recordAll {a : Accumulator} (tallies : a.Tallies vs) (calls : List Bracket) :
    (a.recordAll calls).Tallies (vs ++ calls.map (Bracket.invocation a.sums.length)) := by
  induction calls generalizing a vs with
  | nil => rwa [List.map_nil, List.append_nil]
  | cons b calls ih =>
    have run := ih (tallies.record b.id b.isOwn b.start b.stop)
    rwa [length_sums_record, List.append_assoc, List.singleton_append] at run

theorem Tallies.level {a : Accumulator} (tallies : a.Tallies vs) : a.Level (reach vs) := by
  refine ⟨?_, ?_, ?_⟩
  · intro slots member
    rw [tallies.sums] at member
    obtain ⟨_, _, rfl⟩ := List.mem_map.mp member
    exact length_tallied ..
  · rw [tallies.calls, length_tallied]
  · rw [tallies.ownCalls, length_tallied]

theorem Tallies.sums_getD {a : Accumulator} (tallies : a.Tallies vs) {counter : Nat}
    (covered : counter < a.sums.length) :
    a.sums[counter]?.getD [] = tallied (Invocation.delta counter) vs := by
  rw [tallies.sums, List.getElem?_map, List.getElem?_range covered]
  rfl

/-- That a shared slot was noted makes no difference to the arrays. -/
theorem recordAll_noted (a : Accumulator) (noted : Bool) (calls : List Bracket) :
    { a with overflowNoted := noted }.recordAll calls =
      { a.recordAll calls with overflowNoted := noted || calls.any Bracket.overflows } := by
  induction calls generalizing a noted with
  | nil => rw [List.any_nil, Bool.or_false]; rfl
  | cons b calls ih =>
    have step : { a with overflowNoted := noted }.record b.id b.isOwn b.start b.stop =
        { a.record b.id b.isOwn b.start b.stop with
          overflowNoted := noted || b.overflows } := rfl
    rw [recordAll_cons, step, ih, List.any_cons, Bool.or_assoc]
    rfl

theorem overflowNoted_recordAll (counters : Nat) (calls : List Bracket) :
    ((new counters).recordAll calls).overflowNoted = calls.any Bracket.overflows :=
  congrArg overflowNoted (recordAll_noted (new counters) false calls)

variable {a : Accumulator} {names : List String}

/-- Flushed under the names of all its counters, an accumulator is a new one. -/
theorem flushed_eq_new (sized : a.sums.length = names.length) :
    a.flushed names = { new names.length with overflowNoted := a.overflowNoted } := by
  rw [flushed, new, List.take_of_length_le (Nat.le_of_eq sized),
    List.drop_of_length_le (Nat.le_of_eq sized), List.append_nil, List.map_const', sized]

theorem recordAll_flushed (sized : a.sums.length = names.length) (calls : List Bracket) :
    (a.flushed names).recordAll calls =
      { (new names.length).recordAll calls with
        overflowNoted := a.overflowNoted || calls.any Bracket.overflows } := by
  rw [flushed_eq_new sized, recordAll_noted]

theorem mem_arrays_of_named (sized : a.sums.length = names.length) {counter : Nat} {name : String}
    (named : names[counter]? = some name) :
    (scopeSumName name, a.sums[counter]?.getD []) ∈ a.arrays names := by
  have inside : counter < a.sums.length := sized ▸ (List.getElem?_eq_some_iff.mp named).1
  refine List.mem_append_left _ (List.mem_map.mpr ⟨(name, _), ?_, rfl⟩)
  apply List.mem_of_getElem? (i := counter)
  rw [List.getElem?_zip_eq_some]
  exact ⟨named, by rw [List.getElem?_eq_getElem inside]⟩

theorem notMem_scopeNames {name : String} (sum : ∀ event ∈ names, name ≠ scopeSumName event)
    (call : name ≠ scopeCallsName) (ownCall : name ≠ scopeOwnCallsName) :
    name ∉ scopeNames names := by
  rw [scopeNames, List.mem_append, List.mem_map]
  rintro (⟨event, member, rfl⟩ | listed)
  · exact sum event member rfl
  · simp [call, ownCall] at listed

/-- After any brackets the arrays of an accumulator say of each slot what the brackets of the slot
come to: by how much each counter advanced, how many calls made the counters advance, and how many
of these their own thread made.  All arrays reach as far as the largest slot.  Flushing appends each
array to the series of its name, leaves the other series, and leaves an accumulator that records as
a new one does; only a slot that was noted as shared is not noted again. -/
theorem history (counters : Nat) (calls : List Bracket) :
    let a := (new counters).recordAll calls
    a.sums.length = counters ∧
    (∀ slot,
      (∀ counter < counters, (a.sums[counter]?.getD [])[slot]?.getD 0 =
        wrappingSum ((calls.filter (·.slot = slot)).map (Bracket.delta counter))) ∧
      a.calls[slot]?.getD 0 =
        Int64.ofNat (calls.countP fun b => b.slot = slot && b.advances counters) ∧
      a.ownCalls[slot]?.getD 0 =
        Int64.ofNat (calls.countP fun b => b.slot = slot && (b.advances counters && b.isOwn))) ∧
    (∃ length ≤ 1024, a.Level length ∧ (calls = [] → length = 0) ∧
      (calls ≠ [] → ∃ b ∈ calls, length = b.slot + 1 ∧ ∀ c ∈ calls, c.slot ≤ b.slot)) ∧
    ∀ (names : List String) (results : SeriesMap), names.length = counters → names.Nodup →
      (∀ (counter : Nat) (name : String), names[counter]? = some name →
        (a.flushInto names results).get? (scopeSumName name) =
          extended (results.get? (scopeSumName name)) (a.sums[counter]?.getD [])) ∧
      (a.flushInto names results).get? scopeCallsName =
        extended (results.get? scopeCallsName) a.calls ∧
      (a.flushInto names results).get? scopeOwnCallsName =
        extended (results.get? scopeOwnCallsName) a.ownCalls ∧
      (∀ name, (∀ event ∈ names, name ≠ scopeSumName event) → name ≠ scopeCallsName →
        name ≠ scopeOwnCallsName → (a.flushInto names results).get? name = results.get? name) ∧
      ∀ later : List Bracket,
        (a.flushed names).recordAll later =
          { (new counters).recordAll later with
            overflowNoted := calls.any Bracket.overflows || later.any Bracket.overflows } ∧
        ∀ id, ((a.flushed names).recordAll later).notice? id =
          if calls.any Bracket.overflows then none
          else ((new counters).recordAll later).notice? id := by
  intro a
  have sized : (new counters).sums.length = counters := List.length_replicate
  have covers : a.sums.length = counters := by rw [length_sums_recordAll, sized]
  have tallies := (tallies_new counters).recordAll calls
  rw [sized, List.nil_append] at tallies
  refine ⟨covers, fun slot => ⟨?_, ?_, ?_⟩,
    ⟨reach _, reach_map_le counters calls, tallies.level, ?_, exists_reach_map counters⟩, ?_⟩
  · intro counter covered
    rw [tallies.sums_getD (covers.symm ▸ covered), getD_tallied, slotSum_delta _ _ _ covered]
  · rw [tallies.calls, getD_tallied]
    exact (slotSum_indicator ..).trans (congrArg Int64.ofNat (countOf_invocation ..))
  · rw [tallies.ownCalls, getD_tallied]
    exact (slotSum_indicator ..).trans (congrArg Int64.ofNat (countOf_invocation ..))
  · rintro rfl
    rfl
  · intro names results lengths distinct
    have sized : a.sums.length = names.length := covers.trans lengths.symm
    have appended : ∀ name values, (name, values) ∈ a.arrays names →
        (a.flushInto names results).get? name = extended (results.get? name) values :=
      fun _ _ listed => get?_flushInto_of_mem sized distinct listed results
    refine ⟨fun counter name named => appended _ _ (mem_arrays_of_named sized named),
      appended _ _ (List.mem_append_right _ List.mem_cons_self),
      appended _ _ (List.mem_append_right _ (List.mem_cons_of_mem _ List.mem_cons_self)),
      fun name sum call ownCall =>
        get?_flushInto sized (notMem_scopeNames sum call ownCall) results, ?_⟩
    -- Nothing but the note of a shared slot tells the flushed accumulator from a new one.
    intro later
    have after := recordAll_flushed sized later
    rw [lengths, overflowNoted_recordAll] at after
    refine ⟨after, ?_⟩
    intro id
    rw [after, notice?, notice?, overflowNoted_recordAll]
    cases calls.any Bracket.overflows <;> simp

/-- Calls of a scope with a slot of its own and of two that share one, of which the second takes
back what the first counted. -/
def sampleBrackets : List Bracket :=
  [⟨1, true, .ofValues [10, 100], .ofValues [15, 120]⟩,
    ⟨5000, false, .ofValues [15, 120], .ofValues [22, 121]⟩,
    ⟨65535, true, .ofValues [22, 121], .ofValues [14]⟩]

theorem history_sampleBrackets :
    let a := (new 2).recordAll sampleBrackets
    (a.sums[0]?.getD [])[1023]?.getD 0 = (-1 : Int64) ∧
    (a.sums[1]?.getD [])[1023]?.getD 0 = (-120 : Int64) ∧
    a.calls[1023]?.getD 0 = 1 ∧ a.ownCalls[1]?.getD 0 = 1 ∧ a.ownCalls[1023]?.getD 0 = 0 ∧
    ["cycles", "instructions"].length = 2 ∧ ["cycles", "instructions"].Nodup ∧
    (a.flushInto ["cycles", "instructions"] .empty).get? "instructions:ScopeSum" =
      some (.ofValues (a.sums[1]?.getD [])) ∧
    ∀ id, (a.flushed ["cycles", "instructions"]).notice? id = none := by
  intro a
  obtain ⟨-, slots, -, flush⟩ := history 2 sampleBrackets
  have distinct : ["cycles", "instructions"].Nodup := by decide
  obtain ⟨sums, -, -, -, after⟩ := flush ["cycles", "instructions"] .empty rfl distinct
  refine ⟨?_, ?_, ?_, ?_, ?_, rfl, distinct, ?_, ?_⟩
  · exact ((slots 1023).1 0 (by decide)).trans (by decide)
  · exact ((slots 1023).1 1 (by decide)).trans (by decide)
  · exact (slots 1023).2.1.trans (by decide)
  · exact (slots 1).2.2.trans (by decide)
  · exact (slots 1023).2.2.trans (by decide)
  · refine (sums 1 "instructions" rfl).trans (if_neg ?_)
    intro none
    have some := (slots 1023).1 1 (by decide)
    rw [none] at some
    exact absurd some (by decide)
  · exact (after []).2

end Accumulator

end ScopeMeter

import ScopeMeter.Proofs.Scope.Accumulator

/-!
# What an accumulator has recorded

An `Invocation` is one call of a scope as an accumulator takes it up: its number, whether the
counters' own thread made it, and what each counter advanced by.  `tallied` adds up an amount of
some invocations slot by slot.  The arrays of an accumulator are at all times what its invocations
tally up to (`Accumulator.Tallies`), and flushing it appends exactly these arrays to the series of
its scopes (`Accumulator.Tallies.values_flushInto`).
-/

namespace ScopeMeter

structure Invocation where
  id : UInt16
  isOwn : Bool
  /-- What the counters advanced by. -/
  deltas : List Int64
  deriving DecidableEq

namespace Invocation

def slot (v : Invocation) : Nat := Accumulator.slot v.id

/-- Whether the counters advanced at all. -/
def counted (v : Invocation) : Bool := 0 < wrappingSum v.deltas

/-- What an invocation adds to the count of calls. -/
def called (v : Invocation) : Int64 := if v.counted then 1 else 0

/-- What an invocation adds to the count of calls made by the counters' own thread. -/
def ownCalled (v : Invocation) : Int64 := if v.counted && v.isOwn then 1 else 0

/-- What an invocation adds to the sum of a counter. -/
def delta (counter : Nat) (v : Invocation) : Int64 := v.deltas[counter]?.getD 0

/-- The invocation that a call of a scope between two snapshots is. -/
def between (counters : Nat) (id : UInt16) (isOwn : Bool) (start stop : Snapshot) : Invocation :=
  ⟨id, isOwn, Accumulator.deltas counters start stop⟩

end Invocation

/-! ## Tallies -/

/-- How many slots some invocations reach. -/
def reach (vs : List Invocation) : Nat := (vs.map fun v => v.slot + 1).foldr max 0

/-- The sum of an amount over the invocations of a slot. -/
def slotSum (amount : Invocation → Int64) (vs : List Invocation) (slot : Nat) : Int64 :=
  wrappingSum ((vs.filter (·.slot = slot)).map amount)

/-- The sums of an amount by slot, as far as the invocations reach. -/
def tallied (amount : Invocation → Int64) (vs : List Invocation) : List Int64 :=
  (List.range (reach vs)).map (slotSum amount vs)

variable {amount : Invocation → Int64} {v : Invocation} {vs ws : List Invocation}

theorem length_tallied (amount : Invocation → Int64) (vs : List Invocation) :
    (tallied amount vs).length = reach vs := by
  rw [tallied, List.length_map, List.length_range]

theorem reach_cons (v : Invocation) (vs : List Invocation) :
    reach (v :: vs) = max (v.slot + 1) (reach vs) := rfl

theorem reach_append (vs ws : List Invocation) : reach (vs ++ ws) = max (reach vs) (reach ws) := by
  induction vs with
  | nil => exact (Nat.zero_max _).symm
  | cons v vs ih => rw [List.cons_append, reach_cons, reach_cons, ih, Nat.max_assoc]

theorem reach_eq_zero_iff : reach vs = 0 ↔ vs = [] := by
  cases vs with
  | nil => exact iff_of_true rfl rfl
  | cons v vs =>
    rw [reach_cons]
    refine iff_of_false ?_ (List.cons_ne_nil _ _)
    omega

theorem slot_lt_reach (member : v ∈ vs) : v.slot < reach vs := by
  induction vs with
  | nil => cases member
  | cons w vs ih =>
    rw [reach_cons]
    rcases List.mem_cons.mp member with rfl | member
    · omega
    · have := ih member
      omega

theorem slotSum_append (amount : Invocation → Int64) (vs ws : List Invocation) (slot : Nat) :
    slotSum amount (vs ++ ws) slot = slotSum amount vs slot + slotSum amount ws slot := by
  rw [slotSum, List.filter_append, List.map_append, wrappingSum_append, slotSum, slotSum]

theorem slotSum_singleton (amount : Invocation → Int64) (v : Invocation) (slot : Nat) :
    slotSum amount [v] slot = if v.slot = slot then amount v else 0 := by
  rw [slotSum, List.filter_singleton]
  split
  next same =>
    rw [decide_eq_true same]
    exact wrappingSum_singleton _
  next other =>
    rw [decide_eq_false other]
    rfl

/-- No invocation of a slot out of reach is there. -/
theorem slotSum_of_reach_le {slot : Nat} (out : reach vs ≤ slot) : slotSum amount vs slot = 0 := by
  have none : vs.filter (·.slot = slot) = [] := by
    rw [List.filter_eq_nil_iff]
    intro v member
    have := slot_lt_reach member
    rw [decide_eq_true_eq]
    omega
  rw [slotSum, none]
  rfl

/-- A tally reads as the sums of its slots, behind its end as well. -/
theorem getD_tallied (amount : Invocation → Int64) (vs : List Invocation) (slot : Nat) :
    (tallied amount vs)[slot]?.getD 0 = slotSum amount vs slot := by
  rw [tallied, List.getElem?_map]
  by_cases inside : slot < reach vs
  · rw [List.getElem?_range inside]
    rfl
  · rw [List.getElem?_eq_none (by rw [List.length_range]; omega), slotSum_of_reach_le (by omega)]
    rfl

/-! ## Accumulators -/

theorem getElem?_addToSlot (slots : List Int64) (slot i : Nat) (amount : Int64) :
    (addToSlot slots slot amount)[i]? =
      if i < max slots.length (slot + 1) then
        some (slots[i]?.getD 0 + if slot = i then amount else 0) else none := by
  have grown : (slots ++ List.replicate (slot + 1 - slots.length) 0)[i]? =
      if i < max slots.length (slot + 1) then some (slots[i]?.getD 0) else none := by
    by_cases inside : i < slots.length
    · rw [List.getElem?_append_left inside, List.getElem?_eq_getElem inside, if_pos (by omega)]
      rfl
    · rw [List.getElem?_append_right (by omega), List.getElem?_replicate,
        List.getElem?_eq_none (Nat.not_lt.mp inside)]
      split
      · rw [if_pos (by omega)]
        rfl
      · rw [if_neg (by omega)]
  rw [addToSlot, List.getElem?_modify, grown]
  by_cases inside : i < max slots.length (slot + 1)
  · rw [if_pos inside, if_pos inside]
    split
    · rfl
    · rw [Int64.add_zero]
      rfl
  · rw [if_neg inside, if_neg inside]
    rfl

/-- One more invocation adds its amount to its slot. -/
theorem addToSlot_tallied (amount : Invocation → Int64) (vs : List Invocation) (v : Invocation) :
    addToSlot (tallied amount vs) v.slot (amount v) = tallied amount (vs ++ [v]) := by
  apply List.ext_getElem?
  intro i
  have reaches : reach [v] = v.slot + 1 := Nat.max_zero _
  rw [getElem?_addToSlot, length_tallied, getD_tallied, tallied, List.getElem?_map, reach_append,
    reaches]
  split
  next inside =>
    rw [List.getElem?_range inside, Option.map_some, slotSum_append, slotSum_singleton]
  next outside =>
    rw [List.getElem?_eq_none (by rw [List.length_range]; omega)]
    rfl

namespace Accumulator

/-- The arrays of the accumulator are what some invocations tally up to. -/
structure Tallies (a : Accumulator) (vs : List Invocation) : Prop where
  sums : a.sums = (List.range a.sums.length).map fun i => tallied (Invocation.delta i) vs
  calls : a.calls = tallied Invocation.called vs
  ownCalls : a.ownCalls = tallied Invocation.ownCalled vs

theorem tallies_new (counters : Nat) : (new counters).Tallies [] := by
  refine ⟨?_, rfl, rfl⟩
  have empty : ∀ i, tallied (Invocation.delta i) [] = [] := fun _ => rfl
  simp only [new, List.length_replicate, empty, List.map_const', List.length_range]

/-- Recording a call adds it to the invocations. -/
theorem Tallies.record {a : Accumulator} (tallies : a.Tallies vs) (id : UInt16) (isOwn : Bool)
    (start stop : Snapshot) :
    (a.record id isOwn start stop).Tallies
      (vs ++ [.between a.sums.length id isOwn start stop]) := by
  obtain ⟨sums, calls, ownCalls⟩ := tallies
  refine ⟨?_, ?_, ?_⟩
  · apply List.ext_getElem?
    intro i
    rw [length_sums_record, List.getElem?_map]
    simp only [Accumulator.record, List.getElem?_zipWith]
    by_cases covered : i < a.sums.length
    · have slots : a.sums[i]? = some (tallied (Invocation.delta i) vs) := by
        rw [sums, List.getElem?_map, List.getElem?_range covered]
        rfl
      have delta : (deltas a.sums.length start stop)[i]? = some
          (Invocation.delta i (.between a.sums.length id isOwn start stop)) := by
        rw [Invocation.delta, Invocation.between, List.getElem?_eq_getElem
          (by rwa [length_deltas])]
        rfl
      rw [slots, delta, List.getElem?_range covered, Option.map_some, ← addToSlot_tallied]
      rfl
    · have out : (List.range a.sums.length)[i]? = none :=
        List.getElem?_eq_none (by rw [List.length_range]; omega)
      rw [List.getElem?_eq_none (Nat.not_lt.mp covered), out]
      rfl
  · rw [← addToSlot_tallied, ← calls]
    simp only [Accumulator.record, Invocation.called, Invocation.counted, decide_eq_true_eq]
    rfl
  · rw [← addToSlot_tallied, ← ownCalls]
    rfl

/-- Flushing an accumulator whose counters all have a name forgets the invocations. -/
theorem tallies_flushed {a : Accumulator} {names : List String}
    (named : a.sums.length ≤ names.length) : (a.flushed names).Tallies [] := by
  have empty : ∀ i, tallied (Invocation.delta i) [] = [] := fun _ => rfl
  refine ⟨?_, rfl, rfl⟩
  rw [length_sums_flushed]
  simp only [flushed, List.take_of_length_le named, List.drop_of_length_le named, List.append_nil,
    empty, List.map_const', List.length_range]

/-! ## Flushing -/

/-- The series of the scopes of some events, each with the amount that it adds up. -/
def scopeAmounts (names : List String) : List (String × (Invocation → Int64)) :=
  names.zipIdx.map (fun e => (scopeSumName e.1, Invocation.delta e.2)) ++
    [(scopeCallsName, Invocation.called), (scopeOwnCallsName, Invocation.ownCalled)]

theorem keys_scopeAmounts (names : List String) :
    (scopeAmounts names).map Prod.fst = scopeNames names := by
  have indexed : (names.zipIdx.map fun e => (scopeSumName e.1, Invocation.delta e.2)).map
      Prod.fst = (names.zipIdx.map Prod.fst).map scopeSumName := by
    rw [List.map_map, List.map_map]
    rfl
  rw [scopeAmounts, List.map_append, indexed, List.zipIdx_map_fst]
  rfl

theorem mem_scopeNames {names : List String} {s : String × (Invocation → Int64)}
    (scope : s ∈ scopeAmounts names) : s.1 ∈ scopeNames names := by
  rw [← keys_scopeAmounts]
  exact List.mem_map_of_mem scope

/-- The arrays that are flushed are the tallies of the amounts. -/
theorem Tallies.arrays_eq {a : Accumulator} {names : List String} (tallies : a.Tallies vs)
    (sized : a.sums.length = names.length) :
    a.arrays names = (scopeAmounts names).map fun e => (e.1, tallied e.2 vs) := by
  have zipped : names.zip a.sums =
      names.zipIdx.map fun e => (e.1, tallied (Invocation.delta e.2) vs) := by
    rw [tallies.sums, sized, List.zip_map_right, List.range_eq_range',
      ← List.zipIdx_eq_zip_range']
    rfl
  rw [arrays, zipped, tallies.calls, tallies.ownCalls, scopeAmounts, List.map_append,
    List.map_map, List.map_map]
  rfl

/-- Flushing appends to the series of a scope what its amount tallies up to. -/
theorem Tallies.values_flushInto {a : Accumulator} {names : List String} (tallies : a.Tallies vs)
    (sized : a.sums.length = names.length) (distinct : names.Nodup) {name : String}
    (scope : (name, amount) ∈ scopeAmounts names) (m : SeriesMap) :
    (((a.flushInto names m).get? name).getD {}).values =
      ((m.get? name).getD {}).values ++ tallied amount vs := by
  have listed : (name, tallied amount vs) ∈ a.arrays names := by
    rw [tallies.arrays_eq sized]
    exact List.mem_map.mpr ⟨_, scope, rfl⟩
  rw [get?_flushInto_of_mem sized distinct listed, values_extended]

end Accumulator

end ScopeMeter

import Mathlib.Data.List.Nodup
import ScopeMeter.Scope.Accumulator
import ScopeMeter.Proofs.Series

/-!
# What accumulators add up

Adding a call to an accumulator adds to each counter's sum in the slot of the scope what the
counter advanced by (`Accumulator.sum_record`).  All arrays of an accumulator have one length at
all times (`Accumulator.Level`), since every call reaches the same slot of each; so flushing it
lengthens all series of scopes alike (`Accumulator.shape_flushInto`).
-/

namespace ScopeMeter

theorem length_addToSlot (slots : List Int64) (slot : Nat) (amount : Int64) :
    (addToSlot slots slot amount).length = max slots.length (slot + 1) := by
  unfold addToSlot
  rw [List.length_modify, List.length_append, List.length_replicate]
  omega

theorem getD_addToSlot (slots : List Int64) (slot : Nat) (amount : Int64) :
    (addToSlot slots slot amount)[slot]?.getD 0 = slots[slot]?.getD 0 + amount := by
  unfold addToSlot
  rw [List.getElem?_modify]
  simp only [if_pos]
  by_cases inside : slot < slots.length
  · rw [List.getElem?_append_left inside, List.getElem?_eq_getElem inside]
    rfl
  · have fresh : slot - slots.length < slot + 1 - slots.length := by omega
    rw [List.getElem?_append_right (by omega), List.getElem?_replicate, if_pos fresh,
      List.getElem?_eq_none (by omega)]
    rfl

namespace Accumulator

theorem length_deltas (counters : Nat) (start stop : Snapshot) :
    (deltas counters start stop).length = counters := by
  rw [deltas, List.length_map, List.length_range]

theorem length_sums_record (a : Accumulator) (id : UInt16) (isOwn : Bool)
    (start stop : Snapshot) : (a.record id isOwn start stop).sums.length = a.sums.length := by
  simp only [record, List.length_zipWith, length_deltas, Nat.min_self]

theorem length_sums_flushed (a : Accumulator) (names : List String) :
    (a.flushed names).sums.length = a.sums.length := by
  simp only [flushed, List.length_append, List.length_map, List.length_take, List.length_drop]
  omega

/-- A call adds to the sum of each counter what the counter advanced by. -/
theorem sum_record (a : Accumulator) (id : UInt16) (isOwn : Bool) (start stop : Snapshot)
    {counter : Nat} (covered : counter < a.sums.length) :
    (a.record id isOwn start stop).sum counter id =
      a.sum counter id + (stop.value counter - start.value counter) := by
  have delta : (deltas a.sums.length start stop)[counter]? =
      some (stop.value counter - start.value counter) := by
    rw [deltas, List.getElem?_map, List.getElem?_range covered, Option.map_some]
  simp only [sum, record, List.getElem?_zipWith, delta, List.getElem?_eq_getElem covered,
    Option.getD_some]
  exact getD_addToSlot ..

/-- All arrays of the accumulator have one length. -/
structure Level (a : Accumulator) (length : Nat) : Prop where
  sums : ∀ slots ∈ a.sums, slots.length = length
  calls : a.calls.length = length
  ownCalls : a.ownCalls.length = length

theorem level_new (counters : Nat) : (new counters).Level 0 := by
  refine ⟨?_, rfl, rfl⟩
  intro slots member
  rw [List.eq_of_mem_replicate member, List.length_nil]

theorem Level.record {a : Accumulator} {length : Nat} (level : a.Level length) (id : UInt16)
    (isOwn : Bool) (start stop : Snapshot) :
    (a.record id isOwn start stop).Level (max length (slot id + 1)) := by
  refine ⟨?_, ?_, ?_⟩
  · intro slots member
    obtain ⟨i, at_i⟩ := List.mem_iff_getElem?.1 member
    simp only [Accumulator.record, List.getElem?_zipWith] at at_i
    split at at_i
    next old delta sums_i _ =>
      cases at_i
      rw [length_addToSlot, level.sums old (List.mem_of_getElem? sums_i)]
    · cases at_i
  · rw [Accumulator.record, length_addToSlot, level.calls]
  · rw [Accumulator.record, length_addToSlot, level.ownCalls]

/-- Flushing an accumulator whose counters all have a name empties it. -/
theorem level_flushed {a : Accumulator} {names : List String}
    (named : a.sums.length ≤ names.length) : (a.flushed names).Level 0 := by
  refine ⟨?_, rfl, rfl⟩
  intro slots member
  simp only [flushed, List.drop_of_length_le named, List.append_nil, List.mem_map] at member
  obtain ⟨_, _, rfl⟩ := member
  rfl

/-! ## Flushing -/

/-- The names of the series that the arrays are flushed into. -/
def scopeNames (names : List String) : List String :=
  names.map scopeSumName ++ [scopeCallsName, scopeOwnCallsName]

theorem scopeSumName_injective : Function.Injective scopeSumName := by
  intro a b same
  exact (String.append_left_inj _).1 same

theorem getLast?_scopeSumName (event : String) :
    (scopeSumName event).toList.getLast? = some 'm' := by
  simp [scopeSumName, String.toList_append]

/-- The series of sums are named apart from those of calls, which end in other letters. -/
theorem scopeSumName_ne (event : String) :
    scopeSumName event ≠ scopeCallsName ∧ scopeSumName event ≠ scopeOwnCallsName := by
  have last := getLast?_scopeSumName event
  constructor
  · intro same
    rw [same] at last
    exact absurd last (by decide)
  · intro same
    rw [same] at last
    exact absurd last (by decide)

theorem nodup_scopeNames {names : List String} (distinct : names.Nodup) :
    (scopeNames names).Nodup := by
  apply List.Nodup.append (distinct.map scopeSumName_injective) (by decide)
  intro name sum call
  obtain ⟨event, _, rfl⟩ := List.mem_map.1 sum
  rcases List.mem_cons.1 call with same | call
  · exact (scopeSumName_ne event).1 same
  · exact (scopeSumName_ne event).2 (List.mem_singleton.1 call)

theorem keys_arrays {a : Accumulator} {names : List String}
    (sized : a.sums.length = names.length) :
    (a.arrays names).map Prod.fst = scopeNames names := by
  have zipped : ((names.zip a.sums).map fun e => (scopeSumName e.1, e.2)).map Prod.fst =
      ((names.zip a.sums).map Prod.fst).map scopeSumName := by
    rw [List.map_map, List.map_map]
    rfl
  rw [arrays, List.map_append, zipped, List.map_fst_zip (Nat.le_of_eq sized.symm)]
  rfl

theorem Level.length_arrays {a : Accumulator} {length : Nat} (level : a.Level length)
    (names : List String) : ∀ e ∈ a.arrays names, e.2.length = length := by
  intro e member
  rcases List.mem_append.1 member with sum | call
  · obtain ⟨⟨event, slots⟩, pair, rfl⟩ := List.mem_map.1 sum
    exact level.sums slots (List.of_mem_zip pair).2
  · rcases List.mem_cons.1 call with rfl | call
    · exact level.calls
    · rw [List.mem_singleton.1 call]
      exact level.ownCalls

/-- A series, if there is one yet, with values appended; without values none comes into being. -/
def extended (series : Option Series) (values : List Int64) : Option Series :=
  if values = [] then series else some ((series.getD {}).append values)

theorem values_extended (series : Option Series) (values : List Int64) :
    ((extended series values).getD {}).values = (series.getD {}).values ++ values := by
  unfold extended
  split
  next none => rw [none, List.append_nil]
  next => exact (List.append_assoc ..).symm

theorem shape_extended (series : Option Series) (values : List Int64) :
    ((extended series values).getD {}).shape =
      ((series.getD {}).shape.1, (series.getD {}).shape.2 + values.length) := by
  unfold extended
  split
  next none =>
    rw [none]
    rfl
  next => exact Series.shape_append ..

theorem get?_appendTo_self (m : SeriesMap) (name : String) (values : List Int64) :
    (appendTo m name values).get? name = extended (m.get? name) values := by
  simp only [appendTo, extended, List.isEmpty_iff]
  split
  · rfl
  · rw [Keyed.get?_update, if_pos rfl]

theorem get?_appendTo_of_ne (m : SeriesMap) {key name : String} (apart : key ≠ name)
    (values : List Int64) : (appendTo m key values).get? name = m.get? name := by
  unfold appendTo
  split
  · rfl
  · rw [Keyed.get?_update, if_neg apart]

theorem get?_foldl_appendTo {entries : List (String × List Int64)} {name : String}
    (absent : name ∉ entries.map Prod.fst) (m : SeriesMap) :
    (entries.foldl (fun m e => appendTo m e.1 e.2) m).get? name = m.get? name := by
  induction entries generalizing m with
  | nil => rfl
  | cons e entries ih =>
    rw [List.map_cons, List.mem_cons, not_or] at absent
    rw [List.foldl_cons, ih absent.2, get?_appendTo_of_ne m (Ne.symm absent.1)]

/-- Series with different names take up one array each. -/
theorem get?_foldl_appendTo_of_mem {entries : List (String × List Int64)}
    (distinct : (entries.map Prod.fst).Nodup) {name : String} {values : List Int64}
    (member : (name, values) ∈ entries) (m : SeriesMap) :
    (entries.foldl (fun m e => appendTo m e.1 e.2) m).get? name =
      extended (m.get? name) values := by
  induction entries generalizing m with
  | nil => cases member
  | cons e entries ih =>
    rw [List.map_cons, List.nodup_cons] at distinct
    rw [List.foldl_cons]
    rcases List.mem_cons.mp member with rfl | later
    · rw [get?_foldl_appendTo distinct.1, get?_appendTo_self]
    · have apart : e.1 ≠ name := by
        rintro rfl
        exact distinct.1 (List.mem_map.mpr ⟨_, later, rfl⟩)
      rw [ih distinct.2 later, get?_appendTo_of_ne m apart]

variable {a : Accumulator} {names : List String} {name : String}

/-- Flushing leaves every series that is not one of scopes. -/
theorem get?_flushInto (sized : a.sums.length = names.length) (absent : name ∉ scopeNames names)
    (m : SeriesMap) : (a.flushInto names m).get? name = m.get? name := by
  rw [← keys_arrays sized] at absent
  exact get?_foldl_appendTo absent m

/-- There is nothing to flush when all arrays are empty. -/
theorem Level.flushInto_eq (level : a.Level 0) (names : List String) (m : SeriesMap) :
    a.flushInto names m = m := by
  have empty := level.length_arrays names
  unfold flushInto
  generalize a.arrays names = entries at empty ⊢
  induction entries with
  | nil => rfl
  | cons e entries ih =>
    have none : e.2 = [] := List.length_eq_zero_iff.1 (empty e List.mem_cons_self)
    rw [List.foldl_cons, none]
    exact ih fun e' mem => empty e' (List.mem_cons_of_mem _ mem)

theorem Level.flushed_eq (level : a.Level 0) (names : List String) : a.flushed names = a := by
  obtain ⟨sums, calls, ownCalls, noted⟩ := a
  have empty : ∀ slots ∈ sums, slots = [] := fun slots member =>
    List.length_eq_zero_iff.1 (level.sums slots member)
  have front : (sums.take names.length).map (fun _ => []) = sums.take names.length := by
    rw [List.map_congr_left fun slots member => (empty slots (List.mem_of_mem_take member)).symm]
    exact List.map_id _
  have none : calls = [] := List.length_eq_zero_iff.1 level.calls
  have noneOwn : ownCalls = [] := List.length_eq_zero_iff.1 level.ownCalls
  rw [flushed, front, List.take_append_drop, none, noneOwn]

/-- Flushing appends to each series of scopes the array that goes to it. -/
theorem get?_flushInto_of_mem (sized : a.sums.length = names.length) (distinct : names.Nodup)
    {values : List Int64} (member : (name, values) ∈ a.arrays names) (m : SeriesMap) :
    (a.flushInto names m).get? name = extended (m.get? name) values := by
  refine get?_foldl_appendTo_of_mem ?_ member m
  rw [keys_arrays sized]
  exact nodup_scopeNames distinct

/-- Flushing lengthens each series of scopes by the length of the arrays. -/
theorem shape_flushInto {length : Nat} (level : a.Level length)
    (sized : a.sums.length = names.length) (distinct : names.Nodup)
    (member : name ∈ scopeNames names) (m : SeriesMap) :
    (((a.flushInto names m).get? name).getD {}).shape =
      (((m.get? name).getD {}).shape.1, ((m.get? name).getD {}).shape.2 + length) := by
  rw [← keys_arrays sized] at member
  obtain ⟨⟨_, values⟩, listed, rfl⟩ := List.mem_map.mp member
  rw [get?_flushInto_of_mem sized distinct listed, shape_extended,
    level.length_arrays names _ listed]

end Accumulator

end ScopeMeter

import ScopeMeter.Collector.Export
import ScopeMeter.Proofs.Files.Writing
import ScopeMeter.Proofs.Plan.Discovery

/-!
# Names of tables

The name of a table is the stem of its binding and then a number, with nothing between them.  So
two tables get one name when the stem of one goes on with the first digits of the other's number
(`Binding.tableName_eq_iff`).  The stems of two bindings of one thread, or of the whole machine,
are different (`Plan.device_eq_of_stem`).
-/

namespace ScopeMeter

theorem append_eq_append_iff {a b c d : String} : a ++ b = c ++ d ↔
    (∃ e, c = a ++ e ∧ b = e ++ d) ∨ ∃ e, a = c ++ e ∧ d = e ++ b := by
  constructor
  · intro same
    rw [← String.toList_inj, String.toList_append, String.toList_append,
      List.append_eq_append_iff] at same
    rcases same with ⟨e, front, back⟩ | ⟨e, front, back⟩
    · refine .inl ⟨String.ofList e, ?_, ?_⟩ <;>
        rw [← String.toList_inj, String.toList_append, String.toList_ofList]
      · exact front
      · exact back
    · refine .inr ⟨String.ofList e, ?_, ?_⟩ <;>
        rw [← String.toList_inj, String.toList_append, String.toList_ofList]
      · exact front
      · exact back
  · rintro (⟨e, rfl, rfl⟩ | ⟨e, rfl, rfl⟩)
    · exact (String.append_assoc ..).symm
    · exact String.append_assoc ..

theorem toList_dash (s : String) : ("-" ++ s).toList = '-' :: s.toList := String.toList_append

/-- What the name of a table has behind the name of the thread. -/
def DeviceClass.suffix : DeviceClass → String
  | .single => ""
  | device => "-" ++ device.label

/-- The classes of the groups of a thread have different suffixes. -/
theorem DeviceClass.eq_of_suffix {d d' : DeviceClass} (bound : d.isThreadBound)
    (bound' : d'.isThreadBound) (same : d.suffix = d'.suffix) : d = d' := by
  have filled : ∀ device, "" ≠ "-" ++ device := by
    intro device empty
    have chars := congrArg String.toList empty
    rw [toList_dash] at chars
    cases chars
  cases d with
  | cspmu => cases bound
  | interconnect => cases bound
  | single =>
    cases d' with
    | cspmu => cases bound'
    | interconnect => cases bound'
    | single => rfl
    | pmu device => exact absurd same (filled device)
  | pmu device =>
    cases d' with
    | cspmu => cases bound'
    | interconnect => cases bound'
    | single => exact absurd same.symm (filled device)
    | pmu device' => exact congrArg pmu ((String.append_right_inj _).mp same)

namespace Binding

variable {b b' : Binding} {pid : Int32}

/-- What the name of a table has before the number. -/
def stem (b : Binding) : String := b.name ++ b.device.suffix

/-- The number in the name of a table. -/
def number (b : Binding) (pid : Int32) : String := toString (b.tid.getD pid).toInt

theorem tableName_eq (b : Binding) (pid : Int32) :
    b.tableName pid = b.stem ++ b.number pid ++ ".csv" := by
  unfold tableName stem number DeviceClass.suffix Table.fileName
  cases b.device with
  | single => rw [String.append_empty]
  | pmu | cspmu | interconnect => simp only [String.append_assoc]

/-- The stem of the second binding goes on as the number of the first one begins. -/
def RunsInto (pid : Int32) (b b' : Binding) : Prop :=
  ∃ d, b'.stem = b.stem ++ d ∧ b.number pid = d ++ b'.number pid

theorem tableName_eq_iff :
    b.tableName pid = b'.tableName pid ↔ RunsInto pid b b' ∨ RunsInto pid b' b := by
  rw [tableName_eq, tableName_eq, String.append_left_inj, append_eq_append_iff]
  rfl

theorem number_eq_iff : b.number pid = b'.number pid ↔ b.tid.getD pid = b'.tid.getD pid := by
  unfold number
  constructor
  · intro same
    exact Int32.toInt_inj.mp (Int.repr_injective same)
  · intro same
    rw [same]

/-- A number begins with a digit or a sign. -/
theorem exists_number (b : Binding) (pid : Int32) :
    ∃ c rest, (b.number pid).toList = c :: rest ∧ c ≠ '/' ∧ c ≠ '.' := by
  have digits : ∀ n : Nat, ∃ c rest, n.repr.toList = c :: rest ∧ c ≠ '/' ∧ c ≠ '.' := by
    intro n
    rw [Nat.repr_eq_ofList_toDigits, String.toList_ofList]
    cases spelled : Nat.toDigits 10 n with
    | nil => exact absurd spelled Nat.toDigits_ne_nil
    | cons c rest =>
      have digit : c.isDigit = true := by
        apply Nat.isDigit_of_mem_toDigits (b := 10) (n := n) (by decide) (by decide)
        rw [spelled]
        exact List.mem_cons_self
      refine ⟨c, rest, rfl, ?_, ?_⟩
      · rintro rfl
        exact absurd digit (by decide)
      · rintro rfl
        exact absurd digit (by decide)
  have shown : b.number pid = (b.tid.getD pid).toInt.repr := rfl
  rw [shown, Int.repr_eq_if]
  split
  · exact digits _
  · exact ⟨'-', _, toList_dash _, by decide, by decide⟩

/-- The name of a table leads down from a directory. -/
theorem stepsDown_tableName (plain : '/' ∉ b.name.toList) (pid : Int32) :
    Files.Node.StepsDown (b.tableName pid) := by
  -- Behind the name comes a dash, a digit or a sign, and no slash before it.
  obtain ⟨c, rest, start, slash, dot⟩ : ∃ c rest,
      (b.device.suffix ++ (b.number pid ++ ".csv")).toList = c :: rest ∧ c ≠ '/' ∧ c ≠ '.' := by
    rw [String.toList_append]
    cases b.device with
    | single =>
      obtain ⟨c, rest, start, apart⟩ := b.exists_number pid
      exact ⟨c, rest ++ ".csv".toList, by rw [String.toList_append, start]; rfl, apart⟩
    | pmu | cspmu | interconnect =>
      simp only [DeviceClass.suffix, toList_dash, List.cons_append]
      exact ⟨'-', _, rfl, by decide, by decide⟩
  have all : ∀ c ∈ b.name.toList, decide (c ≠ '/') = true := fun c member =>
    decide_eq_true fun same => plain (same ▸ member)
  refine List.any_eq_true.mpr ⟨c, ?_, decide_eq_true dot⟩
  rw [tableName_eq, stem, String.append_assoc, String.append_assoc, String.toList_append, start,
    List.takeWhile_append_of_pos all]
  apply List.mem_append_right
  rw [List.takeWhile_cons, if_pos (decide_eq_true slash)]
  exact List.mem_cons_self

end Binding

namespace Plan

variable {p : Plan} {threads : List Thread} {process : String}

/-- Bindings of one thread, or of the whole machine, have one name. -/
theorem name_eq_of_tid (ascending : Thread.Ascending threads) {s s' : BindingSpec}
    (planned : s ∈ p.bindingSpecs threads process) (planned' : s' ∈ p.bindingSpecs threads process)
    (tid : s.tid = s'.tid) : s.name = s'.name := by
  rcases bindingSpecs_cases planned with ⟨_, t, member, _, _, _, _, rfl⟩ | ⟨_, _, _, rfl⟩ |
    ⟨_, _, rfl⟩ <;>
  rcases bindingSpecs_cases planned' with ⟨_, t', member', _, _, _, _, rfl⟩ | ⟨_, _, _, rfl⟩ |
    ⟨_, _, rfl⟩
  · exact congrArg Thread.name
      (List.inj_on_of_nodup_map ascending.nodup_tids member member' (Option.some.inj tid))
  all_goals first | rfl | cases tid

/-- The classes of the bindings of one thread, or of the whole machine, have different suffixes. -/
theorem device_eq_of_suffix {s s' : BindingSpec} (planned : s ∈ p.bindingSpecs threads process)
    (planned' : s' ∈ p.bindingSpecs threads process) (tid : s.tid = s'.tid)
    (suffix : s.device.suffix = s'.device.suffix) : s.device = s'.device := by
  rcases bindingSpecs_cases planned with ⟨_, _, _, _, _, key, _, rfl⟩ | ⟨units, _, _, rfl⟩ |
    ⟨none, _, rfl⟩ <;>
  rcases bindingSpecs_cases planned' with ⟨_, _, _, _, _, key', _, rfl⟩ | ⟨units', _, _, rfl⟩ |
    ⟨none', _, rfl⟩
  · exact DeviceClass.eq_of_suffix (isThreadBound_ofKey key) (isThreadBound_ofKey key') suffix
  · cases tid
  · cases tid
  · cases tid
  · exact congrArg DeviceClass.cspmu ((String.append_right_inj _).mp suffix)
  · cases units.symm.trans none'
  · cases tid
  · cases none.symm.trans units'
  · rfl

end Plan

end ScopeMeter

import Mathlib.Data.List.Perm.Basic
import ScopeMeter.Proofs.Report.Merge

/-!
# Sums over groups of bindings

The entry of a group of bindings is computed by merging one binding after the other, and each merge
reads the series back from the fields that the last one wrote.  What comes out all the same is one
array for each series name, as long as the longest series of the name, with the sums of the values
at each position, its own sum under `SUM`, and all else as it was; and it does not depend on the
order of the bindings (`Report.aggregate_exact`).
-/

namespace ScopeMeter

namespace Report

section Columns

variable {columns columns' : List (Option (List Int64))}

theorem sumColumns_eq_foldr (columns : List (Option (List Int64))) :
    sumColumns columns = columns.foldr (Option.merge addSeries) none := by
  induction columns with
  | nil => rfl
  | cons c columns ih => rw [sumColumns_cons, ih, List.foldr_cons]

/-- The order of the columns does not matter. -/
theorem sumColumns_perm (perm : columns.Perm columns') :
    sumColumns columns = sumColumns columns' := by
  rw [sumColumns_eq_foldr, sumColumns_eq_foldr, perm.foldr_eq]

theorem length_le_sumColumns {values : List Int64} (member : some values ∈ columns) :
    values.length ≤ ((sumColumns columns).getD []).length := by
  rw [length_sumColumns]
  induction columns with
  | nil => cases member
  | cons c columns ih =>
    rw [List.map_cons, List.foldr_cons]
    rcases List.mem_cons.mp member with rfl | member
    · exact Nat.le_max_left _ _
    · exact Nat.le_trans (ih member) (Nat.le_max_right _ _)

/-- The sum of columns is as long as one of them. -/
theorem exists_longest {sum : List Int64} (is : sumColumns columns = some sum) :
    ∃ values, some values ∈ columns ∧ values.length = sum.length := by
  induction columns generalizing sum with
  | nil => cases is
  | cons c columns ih =>
    rw [sumColumns_cons] at is
    have later : ∀ values, sumColumns columns = some values → values.length = sum.length →
        ∃ values, some values ∈ c :: columns ∧ values.length = sum.length := by
      intro values rest same
      obtain ⟨longest, member, length⟩ := ih rest
      exact ⟨longest, List.mem_cons_of_mem _ member, length.trans same⟩
    cases c with
    | none =>
      rw [Option.merge_none_left] at is
      exact later sum is rfl
    | some own =>
      cases rest : sumColumns columns with
      | none =>
        rw [rest, Option.merge_none_right] at is
        exact ⟨own, List.mem_cons_self, congrArg List.length (Option.some.inj is)⟩
      | some others =>
        rw [rest] at is
        obtain rfl : addSeries own others = sum := Option.some.inj is
        rw [length_addSeries] at later ⊢
        rcases Nat.le_total own.length others.length with behind | ahead
        · exact later others rest (Nat.max_eq_right behind).symm
        · exact ⟨own, List.mem_cons_self, (Nat.max_eq_left ahead).symm⟩

end Columns

variable {start : Keyed Json} {bs bs' : List Binding}

theorem isSome_column {b : Binding} {name : String} :
    (b.column name).isSome ↔ name ∈ b.results.keys := by
  rw [Keyed.mem_keys_iff, Binding.column, Option.isSome_map]

theorem isSome_sumColumns_column {name : String} :
    (sumColumns (bs.map (·.column name))).isSome ↔ ∃ b ∈ bs, name ∈ b.results.keys := by
  rw [isSome_sumColumns, List.any_map, List.any_eq_true]
  exact exists_congr fun b => and_congr_right fun _ => isSome_column

theorem sumColumns_column_eq_none {name : String} (absent : ∀ b ∈ bs, name ∉ b.results.keys) :
    sumColumns (bs.map (·.column name)) = none := by
  rw [← Option.not_isSome_iff_eq_none, isSome_sumColumns_column]
  rintro ⟨b, member, listed⟩
  exact absent b member listed

section Sum

variable {name : String} {sum : List Int64} (is : sumColumns (bs.map (·.column name)) = some sum)
include is

/-- Some series is as long as the sum. -/
theorem exists_longest_series :
    ∃ b ∈ bs, ∃ s, b.results.get? name = some s ∧ s.size = sum.length := by
  obtain ⟨values, member, length⟩ := exists_longest is
  obtain ⟨b, listed, shown⟩ := List.mem_map.mp member
  obtain ⟨s, found, rfl⟩ := Option.map_eq_some_iff.mp shown
  exact ⟨b, listed, s, found, length⟩

/-- No series is longer than the sum. -/
theorem size_le_of_sum {b : Binding} (member : b ∈ bs) {s : Series}
    (found : b.results.get? name = some s) : s.size ≤ sum.length := by
  have column : some s.values ∈ bs.map (·.column name) :=
    List.mem_map.mpr ⟨b, member, by rw [Binding.column, found]; rfl⟩
  have bound := length_le_sumColumns column
  rwa [is] at bound

/-- At each position stands the sum of the values there. -/
theorem getElem_of_sum (i : Nat) (inside : i < sum.length) : sum[i] =
    wrappingSum (bs.map fun b => ((b.results.get? name).getD {}).values[i]?.getD 0) := by
  have read := getD_sumColumns (bs.map (·.column name)) i
  have column : ∀ b : Binding, (b.column name).getD [] = ((b.results.get? name).getD {}).values := by
    intro b
    unfold Binding.column
    cases b.results.get? name <;> rfl
  rw [is, Option.getD_some, List.getElem?_eq_getElem inside, Option.getD_some, List.map_map] at read
  rw [read]
  congr 2
  funext b
  exact congrArg (fun values : List Int64 => values[i]?.getD 0) (column b)

end Sum

/-- The entry of a group of bindings that starts without series shows the sums of their columns. -/
theorem shows_aggregate (unsummed : start.get? sumKey = none)
    (free : ∀ b ∈ bs, ∀ name ∈ b.results.keys, name ≠ sumKey ∧ start.get? name = none) :
    Shows (aggregateEntry start bs) start fun name => sumColumns (bs.map (·.column name)) :=
  ((shows_labels unsummed).aggregate free).congr fun _ => Option.merge_none_right

/-- The sums of an entry; none if it has no field for them. -/
theorem Shows.exists_totals {entry labels : Keyed Json} {column : String → Option (List Int64)}
    (shows_ : Shows entry labels column) : ∃ totals : Keyed Json,
      (∀ name, totals.get? name =
        (column name).map fun values => .int (wrappingSum values).toInt) ∧
      ∀ name, (column name).isSome → entry.get? sumKey = some (.obj totals.entries) := by
  rcases shows_.sums with ⟨_, bare⟩ | ⟨totals, is, _, each⟩
  · refine ⟨.empty, fun name => ?_, fun name some => ?_⟩
    · rw [bare name]
      rfl
    · rw [bare name] at some
      cases some
  · exact ⟨totals, each, fun _ _ => is⟩

/-- Merging bindings one after the other into an entry without series is exact, and the order does
not matter.  Each series name of the bindings gets an array as long as the longest series of the
name, at each position the sum of the values there, a missing one being zero; `SUM` holds the sum of
the array; and all else stays. -/
theorem aggregate_exact (start : Keyed Json) (bs : List Binding)
    (unsummed : start.get? sumKey = none)
    (free : ∀ b ∈ bs, ∀ name ∈ b.results.keys, name ≠ sumKey ∧ start.get? name = none) :
    (∃ totals : Keyed Json,
      (∀ name, (∃ b ∈ bs, name ∈ b.results.keys) →
        (aggregateEntry start bs).get? sumKey = some (.obj totals.entries) ∧
        ∃ values : List Int64,
          (aggregateEntry start bs).get? name = some (.ofSeries values) ∧
          totals.get? name = some (.int (wrappingSum values).toInt) ∧
          (∃ b ∈ bs, ∃ s, b.results.get? name = some s ∧ s.size = values.length) ∧
          (∀ b ∈ bs, ∀ s, b.results.get? name = some s → s.size ≤ values.length) ∧
          ∀ (i : Nat) (inside : i < values.length), values[i] =
            wrappingSum (bs.map fun b => ((b.results.get? name).getD {}).values[i]?.getD 0)) ∧
      ∀ name, (∀ b ∈ bs, name ∉ b.results.keys) →
        totals.get? name = none ∧
        (name ≠ sumKey → (aggregateEntry start bs).get? name = start.get? name)) ∧
    ((∀ b ∈ bs, b.results.keys = []) → aggregateEntry start bs = start) ∧
    ∀ bs', bs.Perm bs' → aggregateEntry start bs' = aggregateEntry start bs := by
  have shown := shows_aggregate unsummed free
  refine ⟨?_, ?_, ?_⟩
  · obtain ⟨totals, each, is⟩ := shown.exists_totals
    refine ⟨totals, ?_, ?_⟩
    · rintro name ⟨b, member, listed⟩
      have present := isSome_sumColumns_column.mpr ⟨b, member, listed⟩
      obtain ⟨apart, unlabelled⟩ := free b member name listed
      obtain ⟨values, sum⟩ := Option.isSome_iff_exists.mp present
      refine ⟨is name present, values, ?_, ?_, exists_longest_series sum,
        fun b member s found => size_le_of_sum sum member found, getElem_of_sum sum⟩
      · rw [shown.field name apart, sum]
        rfl
      · rw [each, sum]
        rfl
    · intro name absent
      have none := sumColumns_column_eq_none absent
      rw [each, none]
      refine ⟨rfl, fun apart => ?_⟩
      rw [shown.field name apart, none, Option.map_none, Option.none_or]
  · intro bare
    refine (shown.congr fun name => sumColumns_column_eq_none ?_).unique (shows_labels unsummed)
    intro b member
    rw [bare b member]
    exact List.not_mem_nil
  -- The bindings in another order show the same columns, and these determine the entry.
  · intro bs' perm
    have free' : ∀ b ∈ bs', ∀ name ∈ b.results.keys, name ≠ sumKey ∧ start.get? name = none :=
      fun b member => free b (perm.mem_iff.mpr member)
    refine (shows_aggregate unsummed free').unique (shown.congr fun name => ?_)
    exact sumColumns_perm (perm.map _)

/-- Two threads with series of different lengths under one name. -/
def sampleSiblings : List Binding :=
  [{ tid := some 3, name := "draw", role := .replay, device := .single,
      results := Keyed.empty.insert "cycles" (.ofValues [10, 20, 30]) },
    { tid := some 5, name := "load", role := .replay, device := .single,
      results := (Keyed.empty.insert "cycles" (.ofValues [9223372036854775807])).insert "misses"
        (.ofValues [5]) }]

theorem aggregate_exact_sampleSiblings :
    Aggregate.replay.entry.get? sumKey = none ∧
    (∀ b ∈ sampleSiblings, ∀ name ∈ b.results.keys,
      name ≠ sumKey ∧ Aggregate.replay.entry.get? name = none) ∧
    (∃ values : List Int64,
      (aggregateEntry Aggregate.replay.entry sampleSiblings).get? "cycles" =
        some (.ofSeries values) ∧
      2 < values.length ∧ values[0]? = some (-9223372036854775799 : Int64)) ∧
    aggregateEntry Aggregate.replay.entry sampleSiblings.reverse =
      aggregateEntry Aggregate.replay.entry sampleSiblings := by
  have unsummed : Aggregate.replay.entry.get? sumKey = none := by decide
  have free : ∀ b ∈ sampleSiblings, ∀ name ∈ b.results.keys,
      name ≠ sumKey ∧ Aggregate.replay.entry.get? name = none := by decide
  obtain ⟨⟨_, merged, -⟩, -, order⟩ := aggregate_exact _ _ unsummed free
  obtain ⟨-, values, field, -, -, bound, each⟩ := merged "cycles" (by decide)
  have long : 2 < values.length := bound _ List.mem_cons_self (.ofValues [10, 20, 30]) (by decide)
  refine ⟨unsummed, free, ⟨values, field, long, ?_⟩, order _ (List.reverse_perm _).symm⟩
  rw [List.getElem?_eq_getElem (by omega), each 0 (by omega)]
  decide

end Report

end ScopeMeter

import ScopeMeter.Report.Document
import ScopeMeter.Proofs.Series

/-!
# What report entries show

A column is what an entry shows of a series name: the values, or nothing.  `Report.Shows` says of
an entry that it shows given labels and columns, and the sum of each column, and nothing else.
Merging series into an entry adds them to its columns (`Report.Shows.merge`), so the entry of a
group of bindings shows the sums of their columns (`Report.Shows.aggregate`), which
`Report.sumColumns` adds up value by value with the shorter ones continued with zeros.
-/

namespace ScopeMeter

/-! ## Adding series -/

theorem wrappingSum_cons (v : Int64) (values : List Int64) :
    wrappingSum (v :: values) = v + wrappingSum values := by
  have cut := wrappingSum_append [v] values
  rwa [wrappingSum_singleton] at cut

theorem length_addSeries (xs ys : List Int64) :
    (addSeries xs ys).length = max xs.length ys.length := by
  induction xs generalizing ys with
  | nil => exact (Nat.zero_max _).symm
  | cons x xs ih =>
    cases ys with
    | nil => exact (Nat.max_zero _).symm
    | cons y ys =>
      rw [addSeries, List.length_cons, ih, List.length_cons, List.length_cons]
      omega

/-- Series are added value by value, the shorter one continued with zeros. -/
theorem getD_addSeries (xs ys : List Int64) (i : Nat) :
    (addSeries xs ys)[i]?.getD 0 = xs[i]?.getD 0 + ys[i]?.getD 0 := by
  induction xs generalizing ys i with
  | nil => exact (Int64.zero_add _).symm
  | cons x xs ih =>
    cases ys with
    | nil => exact (Int64.add_zero _).symm
    | cons y ys =>
      cases i with
      | zero => rfl
      | succ i => exact ih ys i

/-- The sum of a sum of series is the sum of their sums. -/
theorem wrappingSum_addSeries (xs ys : List Int64) :
    wrappingSum (addSeries xs ys) = wrappingSum xs + wrappingSum ys := by
  induction xs generalizing ys with
  | nil => exact (Int64.zero_add _).symm
  | cons x xs ih =>
    cases ys with
    | nil => exact (Int64.add_zero _).symm
    | cons y ys =>
      rw [addSeries, wrappingSum_cons, ih, wrappingSum_cons, wrappingSum_cons]
      ac_rfl

/-- Lists are equal that are equally long and read alike. -/
theorem eq_of_getD {xs ys : List Int64} (lengths : xs.length = ys.length)
    (values : ∀ i : Nat, xs[i]?.getD 0 = ys[i]?.getD 0) : xs = ys := by
  apply List.ext_getElem lengths
  intro i inside inside'
  have same := values i
  rwa [List.getElem?_eq_getElem inside, List.getElem?_eq_getElem inside'] at same

instance : Std.Commutative addSeries where
  comm xs ys := by
    apply eq_of_getD
    · rw [length_addSeries, length_addSeries, Nat.max_comm]
    · intro i
      rw [getD_addSeries, getD_addSeries, Int64.add_comm]

instance : Std.Associative addSeries where
  assoc xs ys zs := by
    apply eq_of_getD
    · simp only [length_addSeries, Nat.max_assoc]
    · intro i
      simp only [getD_addSeries, Int64.add_assoc]

namespace Json

theorem int64?_int (v : Int64) : (Json.int v.toInt).int64? = some v := by
  have bound : v.toInt < 0x8000000000000000 := Int64.toInt_lt v
  rw [int64?, if_pos bound, Int64.ofInt_toInt]

/-- A field with a series is read back as the series. -/
theorem toSeries_ofSeries (values : List Int64) : toSeries (some (ofSeries values)) = values := by
  rw [ofSeries, toSeries, List.map_map]
  refine (List.map_congr_left fun v _ => ?_).trans (List.map_id _)
  rw [Function.comp_apply, int64?_int]
  rfl

end Json

namespace Report

/-! ## Columns -/

/-- The sum of some columns, value by value; the shorter ones are continued with zeros, and there
is none if there is none of them. -/
def sumColumns (columns : List (Option (List Int64))) : Option (List Int64) :=
  if columns.any Option.isSome then
    some ((List.range ((columns.map fun c => (c.getD []).length).foldr max 0)).map fun i =>
      wrappingSum (columns.map fun c => (c.getD [])[i]?.getD 0))
  else none

theorem length_sumColumns (columns : List (Option (List Int64))) :
    ((sumColumns columns).getD []).length =
      (columns.map fun c => (c.getD []).length).foldr max 0 := by
  unfold sumColumns
  split
  next => rw [Option.getD_some, List.length_map, List.length_range]
  next none =>
    induction columns with
    | nil => rfl
    | cons c columns ih =>
      cases c with
      | none => exact (ih none).trans (Nat.zero_max _).symm
      | some values => exact absurd rfl none

theorem getD_sumColumns (columns : List (Option (List Int64))) (i : Nat) :
    ((sumColumns columns).getD [])[i]?.getD 0 =
      wrappingSum (columns.map fun c => (c.getD [])[i]?.getD 0) := by
  have behind : ∀ columns : List (Option (List Int64)),
      (columns.map fun c => (c.getD []).length).foldr max 0 ≤ i →
      wrappingSum (columns.map fun c => (c.getD [])[i]?.getD 0) = 0 := by
    intro columns out
    induction columns with
    | nil => rfl
    | cons c columns ih =>
      rw [List.map_cons, List.foldr_cons] at out
      rw [List.map_cons, wrappingSum_cons, ih (by omega), List.getElem?_eq_none (by omega)]
      rfl
  by_cases inside : i < (columns.map fun c => (c.getD []).length).foldr max 0
  · have long := length_sumColumns columns
    unfold sumColumns at long ⊢
    split
    next => rw [Option.getD_some, List.getElem?_map, List.getElem?_range inside]; rfl
    next none =>
      rw [if_neg none] at long
      rw [← long] at inside
      cases inside
  · rw [behind columns (by omega), List.getElem?_eq_none (by rw [length_sumColumns]; omega)]
    rfl

theorem isSome_sumColumns (columns : List (Option (List Int64))) :
    (sumColumns columns).isSome = columns.any Option.isSome := by
  unfold sumColumns
  split
  next any => rw [any, Option.isSome_some]
  next none => rw [eq_false_of_ne_true none, Option.isSome_none]

/-- A column is known from whether it is there, how long it is and how it reads. -/
theorem column_ext {c d : Option (List Int64)} (present : c.isSome = d.isSome)
    (length : (c.getD []).length = (d.getD []).length)
    (values : ∀ i : Nat, (c.getD [])[i]?.getD 0 = (d.getD [])[i]?.getD 0) : c = d := by
  have same := eq_of_getD length values
  cases c with
  | none =>
    cases d with
    | none => rfl
    | some ys => cases present
  | some xs =>
    cases d with
    | none => cases present
    | some ys => exact congrArg some same

theorem getD_merge (c d : Option (List Int64)) :
    (Option.merge addSeries c d).getD [] = addSeries (c.getD []) (d.getD []) := by
  cases c with
  | none => cases d <;> rfl
  | some xs =>
    cases d with
    | none => cases xs <;> rfl
    | some ys => rfl

theorem sumColumns_cons (c : Option (List Int64)) (columns : List (Option (List Int64))) :
    sumColumns (c :: columns) = Option.merge addSeries c (sumColumns columns) := by
  apply column_ext
  · rw [isSome_sumColumns, Option.isSome_merge, isSome_sumColumns, List.any_cons]
  · rw [length_sumColumns, getD_merge, length_addSeries, length_sumColumns]
    rfl
  · intro i
    rw [getD_sumColumns, getD_merge, getD_addSeries, getD_sumColumns, List.map_cons,
      wrappingSum_cons]

theorem sumColumns_nil : sumColumns [] = none := rfl

theorem sumColumns_pair (c d : Option (List Int64)) :
    sumColumns [c, d] = Option.merge addSeries c d := by
  rw [sumColumns_cons, sumColumns_cons, sumColumns_nil, Option.merge_none_right]

/-! ## Entries -/

/-- An entry shows labels, columns under their names, and under `SUM` the sum of each column; it has
no other field, and no sums if it has no column. -/
structure Shows (entry labels : Keyed Json) (column : String → Option (List Int64)) : Prop where
  field : ∀ name, name ≠ sumKey →
    entry.get? name = ((column name).map Json.ofSeries).or (labels.get? name)
  sums : (entry.get? sumKey = none ∧ ∀ name, column name = none) ∨
    ∃ sums : Keyed Json, entry.get? sumKey = some (.obj sums.entries) ∧
      (∃ name, (column name).isSome) ∧
      ∀ name, sums.get? name = (column name).map fun values => .int (wrappingSum values).toInt

variable {entry labels : Keyed Json} {column : String → Option (List Int64)}

theorem shows_labels (unsummed : labels.get? sumKey = none) : Shows labels labels fun _ => none :=
  ⟨fun _ _ => rfl, .inl ⟨unsummed, fun _ => rfl⟩⟩

theorem Shows.congr {column' : String → Option (List Int64)} (shows_ : Shows entry labels column)
    (same : ∀ name, column name = column' name) : Shows entry labels column' := by
  rwa [← funext same]

/-- The series that an entry shows under a name, the empty one if it shows none. -/
def shown (entry : Keyed Json) (name : String) : List Int64 := Json.toSeries (entry.get? name)

theorem Shows.shown (shows_ : Shows entry labels column) {name : String} (apart : name ≠ sumKey)
    (free : labels.get? name = none) : shown entry name = (column name).getD [] := by
  rw [Report.shown, shows_.field name apart, free]
  cases column name with
  | none => rfl
  | some values => exact Json.toSeries_ofSeries values

/-- Entries show the same sums if their columns have the same totals. -/
theorem Shows.sums_congr {x y labels' : Keyed Json} {column' : String → Option (List Int64)}
    (left : Shows x labels column) (right : Shows y labels' column')
    (total : ∀ name, (column' name).map wrappingSum = (column name).map wrappingSum) :
    x.get? sumKey = y.get? sumKey := by
  have bare : ∀ name, column name = none ↔ column' name = none := by
    intro name
    have same := congrArg Option.isSome (total name)
    rw [Option.isSome_map, Option.isSome_map] at same
    rw [← Option.not_isSome_iff_eq_none, ← Option.not_isSome_iff_eq_none, same]
  rcases left.sums with ⟨none, empty⟩ | ⟨sums, is, ⟨name, some⟩, each⟩ <;>
    rcases right.sums with ⟨none', empty'⟩ | ⟨sums', is', ⟨name', some'⟩, each'⟩
  · rw [none, none']
  · rw [(bare name').mp (empty name')] at some'
    cases some'
  · rw [(bare name).mpr (empty' name)] at some
    cases some
  · have same : sums = sums' := by
      apply Keyed.ext_get?
      intro name
      have totals : ∀ c : Option (List Int64),
          c.map (fun values => Json.int (wrappingSum values).toInt) =
            (c.map wrappingSum).map fun sum => .int sum.toInt := by
        intro c
        rw [Option.map_map]
        rfl
      rw [each, each', totals, totals, total]
    rw [is, is', same]

/-- What an entry shows determines it. -/
theorem Shows.unique {x y : Keyed Json} (left : Shows x labels column)
    (right : Shows y labels column) : x = y := by
  apply Keyed.ext_get?
  intro name
  by_cases here : name = sumKey
  · rw [here]
    exact left.sums_congr right fun _ => rfl
  · rw [left.field name here, right.field name here]

/-- Another label in place of one that is there leaves the columns. -/
theorem Shows.relabel (shows_ : Shows entry labels column) {key : String} (apart : key ≠ sumKey)
    (free : column key = none) (value : Json) :
    Shows (entry.insert key value) (labels.insert key value) column := by
  obtain ⟨field, sums⟩ := shows_
  refine ⟨?_, ?_⟩
  · intro name other
    rw [Keyed.get?_insert, Keyed.get?_insert, field name other]
    split
    next same =>
      subst same
      rw [free]
      rfl
    next => rfl
  · rwa [Keyed.get?_insert, if_neg apart]

/-- Merging a series adds it to the column of its name. -/
theorem Shows.mergeSeries (shows_ : Shows entry labels column) {name : String}
    (apart : name ≠ sumKey) (free : labels.get? name = none) (values : List Int64) :
    Shows (Report.mergeSeries entry name values) labels fun other =>
      if name = other then Option.merge addSeries (some values) (column other)
      else column other := by
  have old : Json.toSeries (entry.get? name) = (column name).getD [] := shows_.shown apart free
  obtain ⟨field, sums⟩ := shows_
  have merged : Option.merge addSeries (some values) (column name) =
      some (addSeries values ((column name).getD [])) := by
    cases column name with
    | none => cases values <;> rfl
    | some values => rfl
  have kept : (entry.insert name (.ofSeries (addSeries values ((column name).getD [])))).get?
      sumKey = entry.get? sumKey := by
    rw [Keyed.get?_insert, if_neg apart]
  -- The sums are an object already, or there are none yet.
  obtain ⟨totals, is, totals_eq⟩ : ∃ totals : Keyed Json,
      (entry.get? sumKey).getD (.obj []) = .obj totals.entries ∧
        ∀ name, totals.get? name =
          (column name).map fun values => .int (wrappingSum values).toInt := by
    rcases sums with ⟨none, bare⟩ | ⟨totals, is, _, totals_eq⟩
    · refine ⟨.empty, by rw [none]; rfl, ?_⟩
      intro name
      rw [bare name]
      rfl
    · exact ⟨totals, by rw [is]; rfl, totals_eq⟩
  unfold Report.mergeSeries putSum
  rw [old]
  dsimp only
  rw [kept, is]
  refine ⟨?_, .inr ⟨totals.insert name
    (.int (wrappingSum (addSeries values ((column name).getD []))).toInt), ?_, ⟨name, ?_⟩, ?_⟩⟩
  · intro other apart'
    rw [Keyed.get?_insert, if_neg (Ne.symm apart'), Keyed.get?_insert]
    split
    next same =>
      subst same
      rw [merged]
      rfl
    next => exact field other apart'
  · rw [Keyed.get?_insert, if_pos rfl]
    rfl
  · rw [if_pos rfl, merged]
    rfl
  · intro other
    rw [Keyed.get?_insert]
    split
    next same =>
      subst same
      rw [merged]
      rfl
    next => exact totals_eq other

theorem Shows.foldl_mergeSeries (shows_ : Shows entry labels column)
    {series : List (String × Series)} (ordered : KeyOrdered series)
    (free : ∀ s ∈ series, s.1 ≠ sumKey ∧ labels.get? s.1 = none) :
    Shows (series.foldl (fun e s => Report.mergeSeries e s.1 s.2.values) entry) labels fun name =>
      Option.merge addSeries ((lookupEntry name series).map Series.values) (column name) := by
  induction series generalizing entry column with
  | nil =>
    simp only [lookupEntry, Option.map_none, Option.merge_none_left]
    exact shows_
  | cons s series ih =>
    obtain ⟨below, ordered⟩ := List.pairwise_cons.mp ordered
    rw [List.forall_mem_cons] at free
    have rest := ih (shows_.mergeSeries free.1.1 free.1.2 s.2.values) ordered free.2
    refine rest.congr ?_
    intro name
    by_cases same : s.1 = name
    · have absent : lookupEntry name series = none := by
        apply lookupEntry_eq_none
        intro e listed is
        have less := below e listed
        rw [is, same] at less
        exact String.lt_irrefl _ less
      rw [lookupEntry, if_pos same, absent, if_pos same, Option.map_none, Option.merge_none_left]
      rfl
    · rw [lookupEntry, if_neg same, if_neg same]

/-- Merging series adds them to the columns of their names. -/
theorem Shows.merge (shows_ : Shows entry labels column) {series : SeriesMap}
    (free : ∀ name ∈ series.keys, name ≠ sumKey ∧ labels.get? name = none) :
    Shows (Report.merge entry series) labels fun name =>
      Option.merge addSeries ((series.get? name).map Series.values) (column name) :=
  shows_.foldl_mergeSeries series.ordered fun _ listed => free _ (List.mem_map_of_mem listed)

end Report

/-- What an entry shows of a series of the binding. -/
def Binding.column (b : Binding) (name : String) : Option (List Int64) :=
  (b.results.get? name).map Series.values

namespace Report

variable {entry labels : Keyed Json} {column : String → Option (List Int64)}

/-- The entry of a group of bindings shows the sums of their columns. -/
theorem Shows.aggregate (shows_ : Shows entry labels column) {bs : List Binding}
    (free : ∀ b ∈ bs, ∀ name ∈ b.results.keys, name ≠ sumKey ∧ labels.get? name = none) :
    Shows (aggregateEntry entry bs) labels fun name =>
      Option.merge addSeries (sumColumns (bs.map (·.column name))) (column name) := by
  induction bs generalizing entry column with
  | nil => exact shows_.congr fun name => Option.merge_none_left.symm
  | cons b bs ih =>
    rw [List.forall_mem_cons] at free
    refine (ih (shows_.merge free.1) free.2).congr ?_
    intro name
    rw [List.map_cons, sumColumns_cons, (Option.commutative_merge addSeries).comm (b.column name),
      (Option.associative_merge addSeries).assoc]
    rfl

end Report

end ScopeMeter

import Mathlib
import ScopeMeter.Proofs.Csv.Reader
import ScopeMeter.Report.Table

/-!
# Tables read back

The text of a table is a spelling of its header and its rows (`Csv.file_text`), so a reader gives
back just these, whatever the names are made of.  The cells of a row are the values of one round in
decimal, and an empty cell stands where a series is past its end (`toInt?_cellText`).  So a table
tells the names and the values of its series: `read_text`.
-/

namespace ScopeMeter.Table

variable {m m' : SeriesMap}

theorem length_values (m : SeriesMap) : m.values.length = m.keys.length := by
  rw [Keyed.values, Keyed.keys, List.length_map, List.length_map]

theorem keys_ne_nil (filled : m.isEmpty = false) : m.keys ≠ [] := by
  simpa [Keyed.isEmpty, Keyed.keys] using filled

theorem values_ne_nil (filled : m.isEmpty = false) : m.values ≠ [] := by
  simpa [Keyed.isEmpty, Keyed.values] using filled

/-- The header and the rows of a table are what its text spells. -/
theorem file_records (filled : m.isEmpty = false) :
    Csv.File (records m) ((records m).flatMap Csv.record) := by
  apply Csv.file_text
  intro names member
  rcases List.mem_cons.mp member with rfl | listed
  · exact keys_ne_nil filled
  · obtain ⟨index, _, rfl⟩ := List.mem_map.mp listed
    simpa [row] using values_ne_nil filled

/-- A cell is read as the value of the series in the row, if it has one. -/
theorem toInt?_cellText (index : Nat) (s : Series) :
    (cellText index s).toInt? = s.values[index]?.map Int64.toInt := by
  unfold cellText
  cases s.values[index]? with
  | none => cbv
  | some v => exact Int.toInt?_repr v.toInt

theorem values_eq_of_cellText {s s' : Series}
    (cells : ∀ index, cellText index s = cellText index s') : s.values = s'.values := by
  apply List.ext_getElem?
  intro index
  apply Option.map_injective (fun _ _ => Int64.toInt_inj.mp)
  rw [← toInt?_cellText, ← toInt?_cellText, cells index]

/-! ## Rows -/

theorem rowCount_eq (filled : m.isEmpty = false) :
    (m.values.map Series.size).max? = some (rowCount m) := by
  unfold rowCount
  rw [List.foldl_max]
  cases longest : (m.values.map Series.size).max? with
  | none =>
    have none := List.map_eq_nil_iff.mp (List.max?_eq_none_iff.mp longest)
    exact absurd none (values_ne_nil filled)
  | some size => simp

/-- There are as many rows as the longest series has values. -/
theorem rowCount_longest (filled : m.isEmpty = false) :
    (∀ s ∈ m.values, s.size ≤ rowCount m) ∧ ∃ s ∈ m.values, s.size = rowCount m := by
  obtain ⟨attained, bound⟩ := List.max?_eq_some_iff.mp (rowCount_eq filled)
  exact ⟨fun s member => bound _ (List.mem_map_of_mem member), List.mem_map.mp attained⟩

/-- A row behind the end of every series is one of empty cells. -/
theorem row_of_le (filled : m.isEmpty = false) {index : Nat} (behind : rowCount m ≤ index) :
    row m index = List.replicate m.keys.length "" := by
  have cells : row m index = m.values.map fun _ => "" := by
    apply List.map_congr_left
    intro s member
    have short : s.values.length ≤ index := ((rowCount_longest filled).1 s member).trans behind
    rw [cellText, List.getElem?_eq_none short]
  rw [cells, List.map_const', length_values]

theorem getElem?_rows {index : Nat} (inside : index < rowCount m) :
    ((List.range (rowCount m)).map (row m))[index]? = some (row m index) := by
  rw [List.getElem?_map, List.getElem?_range inside, Option.map_some]

/-- The header and the rows determine the names and the values. -/
theorem eq_of_records (filled : m.isEmpty = false) (filled' : m'.isEmpty = false)
    (same : records m = records m') :
    m.keys = m'.keys ∧ m.values.map Series.values = m'.values.map Series.values := by
  obtain ⟨header, rows⟩ := List.cons.inj same
  have count : rowCount m = rowCount m' := by simpa using congrArg List.length rows
  have row_eq : ∀ index, row m index = row m' index := by
    intro index
    by_cases inside : index < rowCount m
    · apply Option.some.inj
      rw [← getElem?_rows inside, rows, getElem?_rows (count ▸ inside)]
    · rw [row_of_le filled (Nat.le_of_not_lt inside),
        row_of_le filled' (count ▸ Nat.le_of_not_lt inside), header]
  refine ⟨header, ?_⟩
  apply List.ext_getElem
  · rw [List.length_map, List.length_map, length_values, length_values, header]
  · intro column inside inside'
    rw [List.length_map] at inside inside'
    rw [List.getElem_map, List.getElem_map]
    apply values_eq_of_cellText
    intro index
    have cells : (row m index)[column]? = (row m' index)[column]? := by rw [row_eq]
    rw [row, row, List.getElem?_map, List.getElem?_map, List.getElem?_eq_getElem inside,
      List.getElem?_eq_getElem inside'] at cells
    exact Option.some.inj cells

/-- The text of a table is a spelling of a header, with the names in order, and of a row for each
round of the longest series, and is read as these.  A cell holds the value of its series in
decimal, or nothing behind the end of the series.  No other names and values have the same text. -/
theorem read_text (filled : m.isEmpty = false) :
    ∃ rows, Csv.File (m.keys :: rows) (text m).toList ∧
      Csv.read (text m) = some (m.keys :: rows) ∧ m.keys.Pairwise (· < ·) ∧
      (∀ s ∈ m.values, s.size ≤ rows.length) ∧ (∃ s ∈ m.values, s.size = rows.length) ∧
      (∀ index < rows.length, rows[index]? = some (m.values.map fun s =>
        (s.values[index]?.map fun v => toString v.toInt).getD "")) ∧
      ∀ m' : SeriesMap, m'.isEmpty = false → text m' = text m →
        m'.keys = m.keys ∧ m'.values.map Series.values = m.values.map Series.values := by
  have file := file_records filled
  have longest := rowCount_longest filled
  refine ⟨(List.range (rowCount m)).map (row m), ?_, file.read, m.ascending_keys, ?_⟩
  · rw [text, Csv.text, String.toList_ofList]
    exact file
  · rw [List.length_map, List.length_range]
    refine ⟨longest.1, longest.2, ?_, ?_⟩
    · intro index inside
      rw [getElem?_rows inside]
      congr 1
      apply List.map_congr_left
      intro s _
      unfold cellText
      cases s.values[index]? <;> rfl
    · intro m' filled' same
      have file' := file_records filled'
      rw [String.ofList_injective same] at file'
      exact eq_of_records filled' filled (file'.unique file)

/-- Series of different lengths, one without a name and two whose names have to be quoted. -/
def sampleTable : SeriesMap :=
  .ofList [("x,\ny", {}), ("", .ofValues [-5]), ("a\"b", .ofValues [1, 70])]

theorem read_text_sampleTable :
    sampleTable.isEmpty = false ∧
    text sampleTable = ",\"a\"\"b\",\"x,\ny\"\n-5,1,\n,70,\n" ∧
    ∃ rows, Csv.read (text sampleTable) = some (["", "a\"b", "x,\ny"] :: rows) ∧
      rows.length = 2 ∧ rows[1]? = some ["", "70", ""] := by
  have filled : sampleTable.isEmpty = false := by decide
  obtain ⟨rows, -, read, -, bound, ⟨s, member, size⟩, cells, -⟩ := read_text filled
  have most : ∀ s ∈ sampleTable.values, s.size ≤ 2 := by decide
  have long : .ofValues [1, 70] ∈ sampleTable.values := by decide
  have count : rows.length = 2 := Nat.le_antisymm (size ▸ most s member) (bound _ long)
  refine ⟨filled, by decide, rows, read, count, ?_⟩
  rw [cells 1 (by omega)]
  decide

-- A table without series has the text of one with a single series that has no name and no value.
example : text Keyed.empty = text (Keyed.empty.insert "" {}) := by decide

end ScopeMeter.Table

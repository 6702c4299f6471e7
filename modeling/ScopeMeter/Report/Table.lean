import ScopeMeter.Series

/-!
# Tables of series

The series of a binding as a table: a header with the names in their order, then one row for each
round. Cells behind the end of a shorter series stay empty.

The table is written as comma-separated records, a record on each line. A cell that holds a comma,
a quotation mark or an end of line stands between quotation marks, the marks in it doubled; every
other cell stands as it is. A record whose line would be empty is written as one quoted empty cell,
so that it is not taken for no record at all.
-/

namespace ScopeMeter.Csv

/-- Whether a cell with this character is quoted. -/
def isSpecial (c : Char) : Bool := c = ',' || c = '\"' || c = '\n' || c = '\r'

/-- One character of a quoted cell. -/
def quoteChar (c : Char) : List Char := if c = '\"' then ['\"', '\"'] else [c]

/-- A cell as it is written. -/
def cell (cs : List Char) : List Char :=
  if cs.any isSpecial then '\"' :: cs.flatMap quoteChar ++ ['\"'] else cs

/-- The cells of a record, separated by commas. -/
def cells : List (List Char) → List Char
  | [] => []
  | [c] => cell c
  | c :: d :: rest => cell c ++ ',' :: cells (d :: rest)

/-- A record with its end of line. -/
def record (fields : List String) : List Char :=
  let line := cells (fields.map String.toList)
  (if line.isEmpty then ['\"', '\"'] else line) ++ ['\n']

/-- The text of a file of records. -/
def text (records : List (List String)) : String := String.ofList (records.flatMap record)

end ScopeMeter.Csv

namespace ScopeMeter.Table

/-- The length of the longest series. -/
def rowCount (series : SeriesMap) : Nat :=
  (series.values.map Series.size).foldl max 0

/-- The cell of a series in a row. -/
def cellText (row : Nat) (s : Series) : String :=
  match s.values[row]? with
  | some v => toString v.toInt
  | none => ""

/-- The row of one round. -/
def row (series : SeriesMap) (index : Nat) : List String := series.values.map (cellText index)

/-- The header and the rows. -/
def records (series : SeriesMap) : List (List String) :=
  series.keys :: (List.range (rowCount series)).map (row series)

/-- The text of the file that holds the table. -/
def text (series : SeriesMap) : String := Csv.text (records series)

/-- The name of the file for a thread: its name, then its number. -/
def fileName (name : String) (tid : Int32) : String := name ++ toString tid.toInt ++ ".csv"

end ScopeMeter.Table

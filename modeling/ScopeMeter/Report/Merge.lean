import ScopeMeter.Json.Value
import ScopeMeter.Series

/-!
# Merging series into a report entry

A report entry is an object whose fields are series of integers and, under `SUM`, the sums of
those series by name. Merging a series adds it, value by value, to the series of its name that is
there already.
-/

namespace ScopeMeter

/-- The field with the sums of an entry. -/
def sumKey : String := "SUM"

/-- The field with the name of the thread of an entry. -/
def threadKey : String := "CCthread"

/-- The field with the device of an entry. -/
def deviceKey : String := "device"

/-- Adds two series value by value, the shorter one continued with zeros. -/
def addSeries : List Int64 → List Int64 → List Int64
  | [], ys => ys
  | xs, [] => xs
  | x :: xs, y :: ys => (x + y) :: addSeries xs ys

/-- The array of the values of a series. -/
def Json.ofSeries (values : List Int64) : Json := .arr (values.map fun v => .int v.toInt)

/-- The series that a field holds: nothing if it is no array, and zero for each element that is no
signed integer. -/
def Json.toSeries : Option Json → List Int64
  | some (.arr items) => items.map fun v => v.int64?.getD 0
  | _ => []

namespace Report

/-- Adds a sum to the sums of an entry, if its field for them is an object. -/
def putSum (entry : Keyed Json) (name : String) (sum : Int64) : Keyed Json :=
  match (entry.get? sumKey).getD (.obj []) with
  | .obj sums => entry.insert sumKey (.obj (insertEntry name (.int sum.toInt) sums))
  | _ => entry

/-- Merges one series into an entry. -/
def mergeSeries (entry : Keyed Json) (name : String) (values : List Int64) : Keyed Json :=
  let merged := addSeries values (Json.toSeries (entry.get? name))
  putSum (entry.insert name (.ofSeries merged)) name (wrappingSum merged)

/-- Merges several series into an entry. -/
def merge (entry : Keyed Json) (series : SeriesMap) : Keyed Json :=
  series.entries.foldl (fun e s => mergeSeries e s.1 s.2.values) entry

end Report

end ScopeMeter

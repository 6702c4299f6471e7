import ScopeMeter.Collector.Basic
import ScopeMeter.Report.Table

/-!
# Writing results to files

The result document is written to one file, the series of each binding as a table to a file of
its own. The name of such a file is made of the name and the number of the thread; bindings of a
whole device carry the number of the process, and those of another than the default device the
name of the device.
-/

namespace ScopeMeter

/-- The name of the table of a binding. -/
def Binding.tableName (b : Binding) (pid : Int32) : String :=
  let tid := b.tid.getD pid
  match b.device with
  | .single => Table.fileName b.name tid
  | device => Table.fileName (b.name ++ "-" ++ device.label) tid

namespace Collector

/-- The names of the tables, with their texts. -/
def tables (c : Collector) (pid : Int32) : List (String × String) :=
  c.bindings.map fun b => (b.tableName pid, Table.text b.results)

/-- Writes files into a directory one after the other, up to the first that fails. -/
def writeAll (dir : String) : List (String × String) → Files.Node →
    Except Files.Fault Unit × Files.Node
  | [], files => (.ok (), files)
  | (name, text) :: rest, files =>
    match files.writeText (Files.join dir name) text with
    | .ok files => writeAll dir rest files
    | .error fault => (.error fault, files)

/-- Writes the tables into a directory. -/
def writeTables (c : Collector) (pid : Int32) (dir : String) (files : Files.Node) :
    Except Error Unit × Files.Node :=
  match writeAll dir (c.tables pid) files with
  | (.ok (), files) => (.ok (), files)
  | (.error fault, files) => (.error (.table fault), files)

/-- Writes the result document to a file. -/
def writeDocument (c : Collector) (path : String) (files : Files.Node) :
    Except Error Unit × Files.Node :=
  match files.writeText path c.result.fileText with
  | .ok files => (.ok (), files)
  | .error fault => (.error (.file fault), files)

end Collector

end ScopeMeter

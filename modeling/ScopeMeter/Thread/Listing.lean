import ScopeMeter.Error
import ScopeMeter.Text.Characters

/-!
# Threads

The threads of the process are the directories of a task directory whose names are thread numbers;
the file `comm` in each of them holds the name of the thread. A thread whose name cannot be read
has ended and is left out.
-/

namespace ScopeMeter

structure Thread where
  tid : Int32
  name : String
  deriving DecidableEq, Repr

namespace Thread

/-- The thread number that the name of a directory spells. -/
def tid? (name : String) : Option Int32 :=
  match Decimal.readInt 0x7FFFFFFF name.toList with
  | .ok n => some (Int32.ofInt n)
  | .error _ => none

/-- The name that the text of a `comm` file gives. -/
def nameOf (text : String) : String := Text.trimEnd text

/-- The thread of a directory of the task directory. -/
def ofEntry? (files : Files.Node) (taskDir name : String) : Option Thread :=
  match tid? name, files.readText (Files.join (Files.join taskDir name) "comm") with
  | some tid, .ok text => some ⟨tid, nameOf text⟩
  | _, _ => none

/-- The threads of a task directory in the order of their numbers. -/
def list (files : Files.Node) (taskDir : String) : Except Files.Fault (List Thread) :=
  match files.list taskDir with
  | .error fault => .error fault
  | .ok entries =>
    .ok ((entries.filterMap fun e => ofEntry? files taskDir e.1).mergeSort
      fun a b => a.tid ≤ b.tid)

end Thread

end ScopeMeter

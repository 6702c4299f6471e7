import ScopeMeter.Error
import ScopeMeter.Text.Characters

/-!
# Device registries

The counter family of a device stands in the file `type` of the directory with the device's name,
as a decimal number with white space around it.
-/

namespace ScopeMeter

structure Registry where
  files : Files.Node
  /-- The directory with the directories of the devices. -/
  root : String

namespace Registry

/-- The file with the family of a device. -/
def typePath (r : Registry) (device : String) : String :=
  Files.join (Files.join r.root device) "type"

/-- The family that the text of a type file names. -/
def readType (text : String) : Except Decimal.Fault UInt32 :=
  (Decimal.readNat (UInt32.size - 1) (Text.trimChars text.toList)).map UInt32.ofNat

/-- The family of a device. -/
def resolve (r : Registry) (device : String) : Except Error UInt32 :=
  let path := r.typePath device
  match r.files.readText path with
  | .error fault => .error (.device device path (.unreadable fault))
  | .ok text =>
    match readType text with
    | .ok type => .ok type
    | .error fault => .error (.device device path (.notNumber fault))

end Registry

end ScopeMeter

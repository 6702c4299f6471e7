import ScopeMeter.Json.Embedding

/-!
# Faults of configuration documents

What is told when a value of a configuration has the wrong kind.
-/

namespace ScopeMeter

/-- A kind of value that the configuration wants. -/
inductive Wanted
  | integer
  | sequence
  | document
  deriving DecidableEq, Repr

def Wanted.message : Wanted → String
  | .integer => "i64"
  | .sequence => "a sequence"
  | .document => "struct PerfConfig"

inductive DecodeFault
  | wrongKind (found : Json) (wanted : Wanted)
  /-- An integer above the signed range. -/
  | outOfRange (n : Int)
  /-- A flag that is neither a boolean nor a signed integer. -/
  | notFlag
  /-- A positional document with too many elements. -/
  | tooMany (length : Nat)
  /-- An event that cannot be unpacked. -/
  | packed (fault : Json.UnpackFault)
  deriving DecidableEq

def DecodeFault.message : DecodeFault → String
  | .wrongKind found wanted =>
    "invalid type: " ++ found.describe ++ ", expected " ++ wanted.message
  | .outOfRange n =>
    "invalid value: integer " ++ Json.describe.tick (toString n) ++ ", expected i64"
  | .notFlag => "data did not match any variant of untagged enum Flag"
  | .tooMany length =>
    "invalid length " ++ toString length ++ ", expected fewer elements in array"
  | .packed fault => fault.message

end ScopeMeter

import ScopeMeter.Json.Reader

/-!
# Values with embedded texts

A value is unpacked when it is taken out of a document. An object whose first field in name order
holds an embedded text stands for the value of that text then, wherever the field stood when the
object was read; it may have no other field.
-/

namespace ScopeMeter.Json

/-- Why a value cannot be unpacked. -/
inductive UnpackFault
  /-- A value in place of an embedded text. -/
  | notText (found : Json)
  /-- The embedded text is no JSON. -/
  | text (fault : Fault)
  /-- An object with fields beside the embedded text. -/
  | moreFields (count : Nat)
  deriving DecidableEq

def UnpackFault.message : UnpackFault → String
  | .notText found => notTextMessage found
  | .text fault => fault.message
  | .moreFields count => "invalid length " ++ toString count ++ ", expected fewer elements in map"

/-- The value of an embedded text in an object of `count` fields. -/
def unpackText (count : Nat) : Json → Except UnpackFault Json
  | .str text =>
    match read text with
    | .error fault => .error (.text fault)
    | .ok v => if count = 1 then .ok v else .error (.moreFields count)
  | found => .error (.notText found)

mutual

/-- Replaces the objects that hold embedded texts by the values of the texts. -/
def unpack : Json → Except UnpackFault Json
  | .arr items => do return .arr (← unpackItems items)
  | .obj ((name, v) :: fields) =>
    if name = embeddingName then unpackText (fields.length + 1) v
    else do
      let v ← unpack v
      let fields ← unpackFields fields
      return .obj ((name, v) :: fields)
  | v => .ok v

/-- Unpacks the elements of an array. -/
def unpackItems : List Json → Except UnpackFault (List Json)
  | [] => .ok []
  | v :: rest => do
    let v ← unpack v
    let rest ← unpackItems rest
    return v :: rest

/-- Unpacks the values of fields. -/
def unpackFields : List (String × Json) → Except UnpackFault (List (String × Json))
  | [] => .ok []
  | (name, v) :: rest => do
    let v ← unpack v
    let rest ← unpackFields rest
    return (name, v) :: rest

end

end ScopeMeter.Json

import ScopeMeter.BitField
import ScopeMeter.Interconnect.NodeType

/-!
# Event descriptors of the interconnect

A descriptor says which event of which nodes is counted. It is handed to the kernel as one word:
the node type in bits 0 to 15, the event in bits 16 to 23, the flag that one node is addressed in
bit 31, and the number of that node in bits 32 to 47.
-/

namespace ScopeMeter

open BitField

structure Descriptor where
  nodeType : UInt16
  eventId : UInt8
  byNodeId : Bool
  nodeId : UInt16
  deriving DecidableEq, Repr

namespace Descriptor

/-- The descriptor of an event on the nodes of a type, or on one of them. Numbers that are too
large lose their high bits. -/
def ofEvent (nodeType : NodeType) (event : UInt64) (node : Option UInt64) : Descriptor where
  nodeType := nodeType.code
  eventId := (field event 0 8).toUInt8
  byNodeId := node.isSome
  nodeId := (field (node.getD 0) 0 16).toUInt16

/-- The word for the kernel. -/
def toWord (d : Descriptor) : UInt64 :=
  place d.nodeType.toUInt64 0 16 ||| place d.eventId.toUInt64 16 8 |||
    place (if d.byNodeId then 1 else 0) 31 1 ||| place d.nodeId.toUInt64 32 16

/-- The descriptor that a word holds. -/
def ofWord (w : UInt64) : Descriptor where
  nodeType := (field w 0 16).toUInt16
  eventId := (field w 16 8).toUInt8
  byNodeId := field w 31 1 != 0
  nodeId := (field w 32 16).toUInt16

/-- What can be wrong with a descriptor. -/
inductive Fault
  | invalidNodeType
  | strayNodeId
  deriving DecidableEq, Repr

def Fault.message : Fault → String
  | .invalidNodeType => "invalid interconnect node type"
  | .strayNodeId => "node id given without bynodeid"

/-- The first thing that is wrong with a descriptor. -/
def fault? (d : Descriptor) : Option Fault :=
  if d.nodeType = NodeType.invalid.code then some .invalidNodeType
  else if !d.byNodeId && d.nodeId != 0 then some .strayNodeId
  else none

end Descriptor

end ScopeMeter

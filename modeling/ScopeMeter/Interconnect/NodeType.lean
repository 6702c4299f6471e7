/-!
# Node types of the interconnect

Each kind of node has a name in configurations and a code in descriptors. A name that belongs to
no kind stands for the invalid node type.
-/

namespace ScopeMeter

inductive NodeType
  | invalid | dvm | cfg | dtc | hni | hnf | xp | sbsx | mpamS | mpamNs | rni | rnd | rnsam | mtsx
  | cxra | cxha | cxla
  deriving DecidableEq, Repr

namespace NodeType

/-- All kinds in the order of their codes. -/
def all : List NodeType :=
  [invalid, dvm, cfg, dtc, hni, hnf, xp, sbsx, mpamS, mpamNs, rni, rnd, rnsam, mtsx, cxra, cxha,
   cxla]

def name : NodeType → String
  | invalid => "INVALID"
  | dvm => "DVM"
  | cfg => "CFG"
  | dtc => "DTC"
  | hni => "HNI"
  | hnf => "HNF"
  | xp => "XP"
  | sbsx => "SBSX"
  | mpamS => "MPAM_S"
  | mpamNs => "MPAM_NS"
  | rni => "RNI"
  | rnd => "RND"
  | rnsam => "RNSAM"
  | mtsx => "MTSX"
  | cxra => "CXRA"
  | cxha => "CXHA"
  | cxla => "CXLA"

def code : NodeType → UInt16
  | invalid => 0x0
  | dvm => 0x1
  | cfg => 0x2
  | dtc => 0x3
  | hni => 0x4
  | hnf => 0x5
  | xp => 0x6
  | sbsx => 0x7
  | mpamS => 0x8
  | mpamNs => 0x9
  | rni => 0xA
  | rnd => 0xD
  | rnsam => 0xF
  | mtsx => 0x10
  | cxra => 0x100
  | cxha => 0x101
  | cxla => 0x102

/-- The kind with a name. -/
def ofName? (name : String) : Option NodeType := all.find? fun t => t.name = name

/-- The kind that a configured name stands for. -/
def resolve (name : String) : NodeType := (ofName? name).getD invalid

end NodeType

end ScopeMeter

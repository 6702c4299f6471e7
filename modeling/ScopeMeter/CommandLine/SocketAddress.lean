/-!
# Socket addresses

A socket address is an address of the internet protocol with a port: `a.b.c.d:port` in version 4,
`[groups]:port` in version 6, where a run of zero groups may be left out once as `::`, the last two
groups may be written as a version 4 address, and a scope number may follow behind `%`.

Each reader takes what it reads from the front of a text and returns the rest.
-/

namespace ScopeMeter

inductive SocketAddress
  | v4 (octets : List Nat) (port : Nat)
  | v6 (groups : List Nat) (scope port : Nat)
  deriving DecidableEq, Repr

namespace SocketAddress

/-- The value of a digit of a base. -/
def digit? (base : Nat) (c : Char) : Option Nat :=
  let value :=
    if c.isDigit then c.toNat - '0'.toNat
    else if 'a' ≤ c && c ≤ 'f' then c.toNat - 'a'.toNat + 10
    else if 'A' ≤ c && c ≤ 'F' then c.toNat - 'A'.toNat + 10
    else base
  if value < base then some value else none

/-- The digits at the front of a text. -/
def digits (base : Nat) (cs : List Char) : List Nat :=
  (cs.takeWhile fun c => (digit? base c).isSome).filterMap (digit? base)

/-- Reads a number of at most so many digits, if that is limited, and at most `greatest`. -/
def readNumber (base greatest : Nat) (most : Option Nat) (cs : List Char) :
    Option (Nat × List Char) :=
  let ds := digits base cs
  let value := ds.foldl (fun n d => n * base + d) 0
  if ds.isEmpty || most.any (· < ds.length) || greatest < value then none
  else some (value, cs.drop ds.length)

/-- Reads one character. -/
def readChar (c : Char) : List Char → Option (List Char)
  | d :: cs => if d = c then some cs else none
  | [] => none

/-- Reads a number of a version 4 address, which has no leading zeros. -/
def readOctet (cs : List Char) : Option (Nat × List Char) := do
  let (n, rest) ← readNumber 10 255 (some 3) cs
  if cs.head? = some '0' && 1 < (digits 10 cs).length then none else some (n, rest)

/-- Reads a version 4 address. -/
def readV4 (cs : List Char) : Option (List Nat × List Char) := do
  let (a, cs) ← readOctet cs
  let (b, cs) ← (readChar '.' cs).bind readOctet
  let (c, cs) ← (readChar '.' cs).bind readOctet
  let (d, cs) ← (readChar '.' cs).bind readOctet
  return ([a, b, c, d], cs)

/-- The two groups that a version 4 address stands for. -/
def groupsOfV4 : List Nat → List Nat
  | [a, b, c, d] => [256 * a + b, 256 * c + d]
  | _ => []

/-- Skips the colon between two groups. -/
def skipColon (first : Bool) (cs : List Char) : Option (List Char) :=
  if first then some cs else readChar ':' cs

/-- Reads at most so many groups; a version 4 address ends them, which the flag tells. -/
def readGroups (first : Bool) : Nat → List Char → List Nat × Bool × List Char
  | 0, cs => ([], false, cs)
  | room + 1, cs =>
    let embedded := if room = 0 then none else (skipColon first cs).bind readV4
    match embedded with
    | some (octets, rest) => (groupsOfV4 octets, true, rest)
    | none =>
      match (skipColon first cs).bind (readNumber 16 0xFFFF (some 4)) with
      | some (g, rest) =>
        let (gs, ended, rest) := readGroups false room rest
        (g :: gs, ended, rest)
      | none => ([], false, cs)

/-- Reads a version 6 address. -/
def readV6 (cs : List Char) : Option (List Nat × List Char) :=
  let (front, ended, rest) := readGroups true 8 cs
  if front.length = 8 then some (front, rest)
  else if ended then none
  else do
    let rest ← (readChar ':' rest).bind (readChar ':')
    let (back, _, rest) := readGroups true (7 - front.length) rest
    return (front ++ List.replicate (8 - front.length - back.length) 0 ++ back, rest)

/-- Reads a port behind its colon. -/
def readPort (cs : List Char) : Option (Nat × List Char) :=
  (readChar ':' cs).bind (readNumber 10 65535 none)

/-- Reads a scope number behind its percent sign, if there is one. -/
def readScope : List Char → Option (Nat × List Char)
  | '%' :: cs => readNumber 10 (UInt32.size - 1) none cs
  | cs => some (0, cs)

/-- Reads a socket address of version 4. -/
def readSocketV4 (cs : List Char) : Option (SocketAddress × List Char) := do
  let (octets, cs) ← readV4 cs
  let (port, cs) ← readPort cs
  return (.v4 octets port, cs)

/-- Reads a socket address of version 6. -/
def readSocketV6 (cs : List Char) : Option (SocketAddress × List Char) := do
  let (groups, cs) ← (readChar '[' cs).bind readV6
  let (scope, cs) ← readScope cs
  let (port, cs) ← (readChar ']' cs).bind readPort
  return (.v6 groups scope port, cs)

/-- The socket address that a text spells. -/
def ofString? (s : String) : Option SocketAddress :=
  match (readSocketV4 s.toList).orElse fun _ => readSocketV6 s.toList with
  | some (address, []) => some address
  | _ => none

end SocketAddress

end ScopeMeter

import ScopeMeter.Errno
import ScopeMeter.Keyed

/-!
# File trees

A file tree is a directory with files and directories in it. A path is a text of names separated
by slashes; it is followed from the root of the tree, name by name, and each name but the last has
to name a directory. `.` and empty names stay where they are, `..` goes one directory up.

Slashes at the end of a path do not count as names, but a file cannot be written through them. A
directory that is missing on the way to another one is made only when the other one cannot be made
without it; what is made stays when a later step fails.

Of a file only its text is known, and nothing of it when its bytes are no UTF-8.
-/

namespace ScopeMeter.Files

/-- What a file operation fails with. -/
inductive Fault
  | os (number : Errno)
  | notUtf8
  | nulInName
  deriving DecidableEq, Repr

def Fault.message : Fault → String
  | .os number => number.message
  | .notUtf8 => "stream did not contain valid UTF-8"
  | .nulInName => "file name contained an unexpected NUL byte"

/-- A file or a directory; `none` is a file whose bytes are no UTF-8. -/
inductive Node where
  | file (text : Option String)
  | dir (entries : List (String × Node))
  deriving Inhabited

/-- The longest name and the longest path, in bytes. -/
def nameLimit : Nat := 255

def pathLimit : Nat := 4095

/-- The names of a path. -/
def names (path : String) : List String := (path.toList.splitOn '/').map String.ofList

/-- The names of a path without the empty ones at its end. -/
def dropSlashes (path : List String) : List String := (path.reverse.dropWhile (· = "")).reverse

/-- The names of a path that lead somewhere else. -/
def steps (path : String) : List String := (names path).filter fun n => n ≠ "" && n ≠ "."

/-- A path continued by another one; an absolute one stands for itself. -/
def join (path next : String) : String :=
  if next.startsWith "/" || path.isEmpty then next
  else if path.endsWith "/" then path ++ next
  else path ++ "/" ++ next

/-- Puts a node under a name, in its old place or behind the others. -/
def putEntry (name : String) (node : Node) : List (String × Node) → List (String × Node)
  | [] => [(name, node)]
  | (n, old) :: rest =>
    if n = name then (name, node) :: rest else (n, old) :: putEntry name node rest

namespace Node

/-- The node that a list of names leads to. -/
def get? : Node → List String → Option Node
  | node, [] => some node
  | .dir entries, name :: rest =>
    match lookupEntry name entries with
    | some node => node.get? rest
    | none => none
  | .file _, _ :: _ => none

/-- The tree with a node put where a list of names leads to. -/
def put : Node → Node → List String → Node
  | _, new, [] => new
  | .dir entries, new, name :: rest =>
    .dir (putEntry name (put ((lookupEntry name entries).getD (.dir [])) new rest) entries)
  | .file text, _, _ :: _ => .file text

/-- The names that lead to where a path leads, the last one first, from a directory reached by
the names `here`. -/
def followFrom (root : Node) (here : List String) : List String → Except Errno (List String)
  | [] => .ok here
  | name :: rest =>
    match root.get? here.reverse with
    | some (.dir entries) =>
      if name = "" || name = "." then root.followFrom here rest
      else if name = ".." then root.followFrom (here.drop 1) rest
      else if nameLimit < name.utf8ByteSize then .error .nameTooLong
      else
        match lookupEntry name entries with
        | some _ => root.followFrom (name :: here) rest
        | none => .error .notFound
    | _ => .error .notDirectory

/-- Checks a path before it is followed. -/
def checkPath (path : String) : Except Fault Unit :=
  if path.contains '\x00' then .error .nulInName
  else if path.isEmpty then .error (.os .notFound)
  else if pathLimit < path.utf8ByteSize then .error (.os .nameTooLong)
  else .ok ()

/-- The names that lead to where a path leads. -/
def follow (root : Node) (path : List String) : Except Fault (List String) :=
  match root.followFrom [] path with
  | .ok here => .ok here.reverse
  | .error number => .error (.os number)

/-- The text of the file at a path. -/
def readText (root : Node) (path : String) : Except Fault String := do
  checkPath path
  let place ← root.follow (names path)
  match root.get? place with
  | some (.file (some text)) => .ok text
  | some (.file none) => .error .notUtf8
  | some (.dir _) => .error (.os .isDirectory)
  | none => .error (.os .notFound)

/-- The entries of the directory at a path, in the order in which the directory lists them. -/
def list (root : Node) (path : String) : Except Fault (List (String × Node)) := do
  checkPath path
  let place ← root.follow (names path)
  match root.get? place with
  | some (.dir entries) => .ok entries
  | some (.file _) => .error (.os .notDirectory)
  | none => .error (.os .notFound)

/-- Where the last name of a path stands. -/
structure Place where
  /-- The names that lead to the directory of the last name. -/
  above : List String
  /-- What is in that directory. -/
  entries : List (String × Node)
  /-- The last name; the root has the name `.`. -/
  name : String

namespace Place

/-- Whether the last name is none of an entry but leads to a directory by itself. -/
def isDots (p : Place) : Bool := p.name = "." || p.name = ".."

/-- The names that lead to the entry of the last name. -/
def names (p : Place) : List String := p.above ++ [p.name]

end Place

/-- Where the last name of a path stands; slashes at the end do not count. -/
def placeOf (root : Node) (path : List String) : Except Errno Place :=
  match root.followFrom [] (dropSlashes path).dropLast with
  | .error number => .error number
  | .ok here =>
    match root.get? here.reverse with
    | some (.dir entries) =>
      .ok { above := here.reverse, entries, name := (dropSlashes path).getLast?.getD "." }
    | _ => .error .notDirectory

/-- The tree with a text written to the file that some names lead to, which is created if it does
not exist. -/
def writeAt (root : Node) (path : List String) (text : String) : Except Errno Node :=
  match root.placeOf path with
  | .error number => .error number
  | .ok place =>
    if place.isDots || dropSlashes path ≠ path then .error .isDirectory
    else if nameLimit < place.name.utf8ByteSize then .error .nameTooLong
    else
      match lookupEntry place.name place.entries with
      | some (.dir _) => .error .isDirectory
      | _ => .ok (root.put (.file (some text)) place.names)

/-- The tree with a text written to the file at a path, which is created if it does not exist. -/
def writeText (root : Node) (path : String) (text : String) : Except Fault Node := do
  checkPath path
  match root.writeAt (names path) text with
  | .ok tree => .ok tree
  | .error number => .error (.os number)

/-- The tree with a new directory where some names lead to. -/
def makeDir (root : Node) (path : List String) : Except Errno Node :=
  match root.placeOf path with
  | .error number => .error number
  | .ok place =>
    if place.isDots then .error .alreadyExists
    else if nameLimit < place.name.utf8ByteSize then .error .nameTooLong
    else
      match lookupEntry place.name place.entries with
      | some _ => .error .alreadyExists
      | none => .ok (root.put (.dir []) place.names)

/-- Whether some names lead to a directory. -/
def leadsToDir (root : Node) (path : List String) : Bool :=
  match root.followFrom [] path with
  | .error _ => false
  | .ok here =>
    match root.get? here.reverse with
    | some (.dir _) => true
    | _ => false

/-- Makes a directory, which may be there already. -/
def ensureDir (root : Node) (path : List String) : Except Errno Unit × Node :=
  match root.makeDir path with
  | .ok tree => (.ok (), tree)
  | .error number =>
    (if number = .alreadyExists && root.leadsToDir path then .ok () else .error number, root)

/-- Makes a directory, and if something is missing on the way to it, first the directory above it.
The steps of the path come last first. -/
def makeDirsFrom (root : Node) (path : List String) : List String → Except Errno Unit × Node
  | [] => root.ensureDir path
  | _ :: above =>
    match root.ensureDir path with
    | (.ok (), tree) => (.ok (), tree)
    | (.error number, _) =>
      if number = .notFound then
        match root.makeDirsFrom above.reverse above with
        | (.ok (), tree) => tree.ensureDir path
        | (.error number, tree) => (.error number, tree)
      else (.error number, root)

/-- Makes a directory at a path and all directories on the way to it. -/
def makeDirs (root : Node) (path : String) : Except Fault Unit × Node :=
  if path.isEmpty then (.ok (), root)
  else
    match checkPath path with
    | .error fault => (.error fault, root)
    | .ok () =>
      match root.makeDirsFrom (names path) (steps path).reverse with
      | (.ok (), tree) => (.ok (), tree)
      | (.error number, tree) => (.error (.os number), tree)

end Node

end ScopeMeter.Files

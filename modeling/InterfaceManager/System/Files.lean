import InterfaceManager.OsError
import InterfaceManager.Path

/-!
# Files

A tree of files with names of raw octets.  There are two trees: the one of
the working directory, where relative paths start, and the one of the
system, where absolute paths start; the system's tree is above the working
directory.  A path is looked up name by name, and symbolic links are
followed up to a number of times.  The contents of files are kept by number,
so that they outlast the names of the files.
-/

namespace InterfaceManager

open Text (Octets)
open InterfaceManager.Path (slash dot dotDot)

inductive FileContents where
  /-- A namespace is attached to the file. -/
  | namespace (netns : String)
  | plain
  deriving DecidableEq, Repr

/-- What a name in a directory stands for. -/
inductive FileNode where
  | directory
  /-- The file with a number. -/
  | file (number : Nat)
  /-- The file through which a thread reaches its current namespace. -/
  | currentNamespace
  /-- A symbolic link. -/
  | link (target : Octets)
  deriving DecidableEq, Repr

/-- What can be created at a path. -/
inductive NewFile where
  | directory
  | link (target : Octets)
  | file (contents : FileContents)
  deriving DecidableEq, Repr

/-- The two trees. -/
inductive FileBase where
  | working
  | system
  deriving DecidableEq, Repr

/-- Where a file is: the names from the top of its tree down to it. -/
structure Location where
  base : FileBase
  names : List Octets
  deriving DecidableEq, Repr

namespace Location

def working : Location := ⟨.working, []⟩

/-- The root of the system's tree. -/
def root : Location := ⟨.system, []⟩

/-- The entry called `name` of a directory. -/
def child (l : Location) (name : Octets) : Location :=
  { l with names := l.names ++ [name] }

/-- The directory above.  The root is above itself. -/
def parent (l : Location) : Location :=
  if l.names = [] then root else { l with names := l.names.dropLast }

end Location

/-- All files but the tops of the two trees, which are directories. -/
structure FileTree where
  entries : List (Location × FileNode)
  /-- What the files hold, in the order of their numbers. -/
  contents : List FileContents
  deriving DecidableEq, Repr, Inhabited

namespace FileTree

/-- The longest name of a file. -/
def maxName : Nat := 255

/-- The number of octets that a path stays below. -/
def maxPath : Nat := 4096

/-- The number of links that one lookup may follow. -/
def maxLinks : Nat := 40

def node? (t : FileTree) (l : Location) : Option FileNode :=
  if l.names = [] then some .directory
  else (t.entries.find? (fun entry => entry.1 == l)).map Prod.snd

/-- Puts a file at a location, in place of any other one. -/
def put (t : FileTree) (l : Location) (node : FileNode) : FileTree :=
  { t with
    entries := t.entries.filter (fun entry => entry.1 != l) ++ [(l, node)] }

/-- Removes the name at a location. -/
def remove (t : FileTree) (l : Location) : FileTree :=
  { t with entries := t.entries.filter fun entry => entry.1 != l }

/-- Writes a file at a location.  A file that is there already keeps its
number. -/
def write (t : FileTree) (l : Location) (contents : FileContents) :
    FileTree :=
  match t.node? l with
  | some (.file number) =>
    { t with contents := t.contents.set number contents }
  | _ =>
    { t.put l (.file t.contents.length) with
      contents := t.contents ++ [contents] }

def children (t : FileTree) (l : Location) : List Octets :=
  t.entries.filterMap fun entry =>
    match entry.1.names.getLast? with
    | some name => if entry.1 = l.child name then some name else none
    | none => none

def properNames (path : Octets) : List Octets :=
  (Text.pieces slash path).filter fun name => name ≠ [] ∧ name ≠ dot

/-- The files of a system with an empty working directory: those through
which a thread reaches its current namespace. -/
def fresh : FileTree :=
  let entry := fun (path : String) (node : FileNode) =>
    ((⟨.system, properNames (Text.octets path)⟩ : Location), node)
  ⟨[entry "/proc" .directory, entry "/proc/self" .directory,
    entry "/proc/self/ns" .directory,
    entry "/proc/self/ns/net" .currentNamespace,
    entry "/proc/thread-self" .directory,
    entry "/proc/thread-self/ns" .directory,
    entry "/proc/thread-self/ns/net" .currentNamespace], []⟩

/-- Where a lookup ends. -/
structure Found where
  location : Location
  node : FileNode
  deriving DecidableEq, Repr

/-- Looks names up one after another from a directory.  When a link is met,
`follow` goes on from the directory that holds it with the names of its
target and the names that remain. -/
def descend (t : FileTree)
    (follow : Location → List Octets → Except Errno Found) (l : Location) :
    List Octets → Except Errno Found
  | [] => .ok ⟨l, .directory⟩
  | name :: rest =>
    if name = [] ∨ name = dot then descend t follow l rest
    else if name = dotDot then descend t follow l.parent rest
    else if maxName < name.length then .error .nameTooLong
    else
      match t.node? (l.child name) with
      | none => .error .noEntry
      | some .directory => descend t follow (l.child name) rest
      | some (.link target) =>
        let start := if target.head? = some slash then .root else l
        follow start (Text.pieces slash target ++ rest)
      | some node =>
        if rest = [] then .ok ⟨l.child name, node⟩ else .error .notDirectory

/-- Looks names up from a directory, following at most the given number of
links. -/
def walk (t : FileTree) :
    Nat → Location → List Octets → Except Errno Found
  | 0 => t.descend fun _ _ => .error .tooManyLinks
  | links + 1 => t.descend (walk t links)

/-- Looks a path up. -/
def lookup (t : FileTree) (path : Octets) : Except Errno Found :=
  if path = [] then .error .noEntry
  else if maxPath ≤ path.length then .error .nameTooLong
  else
    let start : Location :=
      if path.head? = some slash then .root else .working
    t.walk maxLinks start (Text.pieces slash path)

/-! ## Creating and deleting -/

/-- What a directory can call one of its entries. -/
structure IsFileName (name : Octets) : Prop where
  nonempty : name ≠ []
  notDot : name ≠ dot
  notDotDot : name ≠ dotDot
  short : name.length ≤ maxName
  noSlash : slash ∉ name
  noZero : 0 ∉ name

instance (name : Octets) : Decidable (IsFileName name) :=
  decidable_of_iff
    (name ≠ [] ∧ name ≠ dot ∧ name ≠ dotDot ∧ name.length ≤ maxName ∧
      slash ∉ name ∧ 0 ∉ name)
    ⟨fun ⟨a, b, c, d, e, f⟩ => ⟨a, b, c, d, e, f⟩,
      fun ⟨a, b, c, d, e, f⟩ => ⟨a, b, c, d, e, f⟩⟩

/-- The location that the last of some names has in the directory to which
the names before it lead. -/
def place (t : FileTree) (start : Location) (names : List Octets) :
    Except Errno Location := do
  match names.getLast? with
  | none => .error .noEntry
  | some last =>
    let above ← t.walk maxLinks start names.dropLast
    if above.node ≠ .directory then .error .notDirectory
    else if IsFileName last then return above.location.child last
    else .error .invalidArgument

/-- Makes the directories that are missing on the way along some names. -/
def makeDirectories (t : FileTree) (start : Location)
    (names : List Octets) : FileTree :=
  (List.range names.length).foldl
    (fun t n =>
      match t.walk maxLinks start (names.take (n + 1)),
        t.place start (names.take (n + 1)) with
      | .error .noEntry, .ok l => t.put l .directory
      | _, _ => t) t

/-- The location that is written to at the end of some names, when links
there are followed. -/
def destination (t : FileTree) :
    Nat → Location → List Octets → Except Errno Location
  | 0, _, _ => .error .tooManyLinks
  | links + 1, start, names => do
    let l ← t.place start names
    match t.node? l with
    | some (.link target) =>
      let start := if target.head? = some slash then .root else l.parent
      destination t links start (properNames target)
    | _ => return l

/-- Creates a file at a path, with the directories that lead to it. -/
def create (t : FileTree) (path : Octets) (file : NewFile) : FileTree :=
  let names := properNames path
  let t := t.makeDirectories .working names.dropLast
  match file with
  | .directory => t.makeDirectories .working names
  | .link target =>
    match t.place .working names with
    | .ok l => t.put l (.link target)
    | .error _ => t
  | .file contents =>
    match t.destination (maxLinks + 1) .working names with
    | .ok l => t.write l contents
    | .error _ => t

/-- Deletes the name at a path. -/
def delete (t : FileTree) (path : Octets) : FileTree :=
  match t.place .working (properNames path) with
  | .ok l => t.remove l
  | .error _ => t

end FileTree

end InterfaceManager

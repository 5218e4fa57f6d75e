import InterfaceManager.Namespace.Handle
import InterfaceManager.Session
import InterfaceManager.System.Files
import InterfaceManager.System.Kernel

/-!
# Machines

A machine has files and a kernel, and a thread that is in one namespace and
has blocked some signals.
-/

namespace InterfaceManager

open Text (Octets)

/-- A machine with the thread that works on it. -/
structure Machine where
  files : FileTree
  kernel : Kernel
  /-- The namespace of the thread. -/
  current : String
  /-- The signals that the thread has blocked. -/
  blocked : SignalSet
  deriving Repr, Inhabited

/-- Why a file could not be used. -/
inductive FileFault where
  | os (e : Errno)
  /-- The path holds a zero octet, which no path of the system does. -/
  | zeroOctet
  deriving DecidableEq, Repr

namespace FileFault

def cause : FileFault → IoCause
  | os e => .os e.code
  | zeroOctet => .other "file name contained an unexpected NUL byte"

def message (f : FileFault) : String := f.cause.message

end FileFault

namespace Machine

/-- A machine with the given files and kernel and a thread in the default
namespace that blocks nothing. -/
def start (files : FileTree) (kernel : Kernel) : Machine :=
  ⟨files, kernel, "", 0⟩

/-- Whether the thread has blocked every signal that it can. -/
def signalsBlocked (m : Machine) : Bool :=
  m.blocked == SignalSet.blockable

/-- Looks a path up. -/
def lookup (m : Machine) (path : Octets) : Except FileFault FileTree.Found :=
  if 0 ∈ path then .error .zeroOctet
  else (m.files.lookup path).mapError .os

/-- What a descriptor of a file leads to. -/
def objectOf (m : Machine) : FileNode → FileObject
  | .file number => .file number
  | .currentNamespace => .namespace m.current
  | .directory | .link _ => .other

/-- The namespace that a descriptor leads to. -/
def namespaceOf? (m : Machine) : FileObject → Option String
  | .namespace netns => some netns
  | .file number =>
    match m.files.contents[number]? with
    | some (.namespace netns) => some netns
    | _ => none
  | .other => none

def openFile (m : Machine) (path : Octets) : Except FileFault FileObject :=
  (m.lookup path).map fun found => m.objectOf found.node

/-- Whether there is a file at the end of a path. -/
def fileExists (m : Machine) (path : Octets) : Bool :=
  (m.lookup path).toOption.isSome

/-- The names of the entries of the directory at a path. -/
def readDirectory (m : Machine) (path : Octets) :
    Except FileFault (List Octets) := do
  let found ← m.lookup path
  if found.node = .directory then
    return m.files.children found.location
  else .error (.os .notDirectory)

/-- Moves the thread to the namespace that a descriptor leads to. -/
def switchTo (m : Machine) (object : FileObject) : Except Errno Machine :=
  (m.kernel.switch (m.namespaceOf? object)).map fun netns =>
    { m with current := netns }

/-- Blocks every signal that can be blocked. -/
def blockSignals (m : Machine) : Machine :=
  { m with blocked := m.blocked ||| SignalSet.blockable }

/-- Blocks exactly the given signals. -/
def restoreSignals (m : Machine) (signals : SignalSet) : Machine :=
  { m with blocked := signals &&& SignalSet.blockable }

/-- What may happen to a machine from outside. -/
inductive Change where
  | setKernel (kernel : Kernel)
  | createFiles (files : List (Octets × NewFile))
  | deleteFile (path : Octets)
  deriving Repr

/-- Creates files below the working directory, one after another. -/
def createFiles (t : FileTree) (files : List (Octets × NewFile)) : FileTree :=
  files.foldl (fun t (path, file) => t.create path file) t

def adjust (m : Machine) : Change → Machine
  | .setKernel kernel => { m with kernel }
  | .createFiles files => { m with files := createFiles m.files files }
  | .deleteFile path => { m with files := m.files.delete path }

end Machine

end InterfaceManager

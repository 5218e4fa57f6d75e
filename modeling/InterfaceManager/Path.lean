import InterfaceManager.Text.Pieces
import InterfaceManager.Text.Utf8

/-!
# Paths of files

A path is a string of octets whose names are separated by slashes.  Two paths
designate the same names when their components agree: repeated slashes,
slashes at the end and single dots after the start do not matter.
-/

namespace InterfaceManager.Path

open Text (Octets)

/-- The octet between the names of a path. -/
def slash : UInt8 := '/'.toNat.toUInt8

/-- The name of the directory itself. -/
def dot : Octets := Text.octets "."

/-- The name of the directory above. -/
def dotDot : Octets := Text.octets ".."

inductive Component where
  | root
  /-- A single dot at the start of a relative path. -/
  | current
  | parent
  | normal (name : Octets)
  deriving DecidableEq, Repr

def isAbsolute (path : Octets) : Bool := path.head? == some slash

/-- The component that a name between slashes stands for; a dot and nothing
at all stand for none. -/
def component? (name : Octets) : Option Component :=
  if name = [] ∨ name = dot then none
  else if name = dotDot then some .parent
  else some (.normal name)

def components (path : Octets) : List Component :=
  let names := Text.pieces slash path
  let start : List Component :=
    if isAbsolute path then [.root]
    else if names.head? = some dot then [.current]
    else []
  start ++ names.filterMap component?

/-- The entry called `name` of the directory `dir`. -/
def join (dir name : Octets) : Octets :=
  if dir = [] ∨ dir.getLast? = some slash then dir ++ name
  else dir ++ slash :: name

end InterfaceManager.Path

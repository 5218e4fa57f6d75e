/-!
# Interface indexes

The kernel numbers the interfaces of a namespace from one; zero is never
assigned and means that no index has been chosen.
-/

namespace InterfaceManager

/-- A kernel interface index. -/
structure IfIndex where
  raw : UInt32
  deriving DecidableEq, Repr, Inhabited

namespace IfIndex

/-- The index that is never assigned. -/
def unset : IfIndex := ⟨0⟩

/-- Whether an index has been chosen. -/
def isSet (i : IfIndex) : Bool := i != unset

instance : Ord IfIndex := ⟨fun i j => compare i.raw j.raw⟩

instance : ToString IfIndex := ⟨fun i => toString i.raw⟩

/-- An index as part of the description of a value. -/
def describe (i : IfIndex) : String := s!"IfIndex({i})"

end IfIndex

end InterfaceManager

import InterfaceManager.IfIndex
import InterfaceManager.Json.Decode

/-!
# JSON forms of interface indexes

An index is a plain number.
-/

namespace InterfaceManager.IfIndex

def toJson (i : IfIndex) : Json := .nat i.raw.toNat

/-- The index with a given JSON form. -/
def ofJson : Json.Reading IfIndex := fun v => (Json.asUInt32 v).map IfIndex.mk

end InterfaceManager.IfIndex

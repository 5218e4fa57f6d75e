import InterfaceManager.Json.Decode

/-!
# Observed states of interfaces

What a query of an interface reports: whether it is administratively up,
and its MTU.
-/

namespace InterfaceManager

/-- The administrative state and the MTU of an interface. -/
structure LinkState where
  up : Bool
  mtu : UInt32
  deriving DecidableEq, Repr

namespace LinkState

def shape : Json.RecordShape := ⟨"struct LinkState", ["up", "mtu"]⟩

def toJson (s : LinkState) : Json :=
  .object [("up", .bool s.up), ("mtu", .nat s.mtu.toNat)]

/-- The state with a given JSON form. -/
def ofJson (v : Json) : Except Json.Misfit LinkState := do
  let fields ← Json.recordFields shape v
  fields.check [("up", Json.fits Json.asFlag), ("mtu", Json.fits Json.asUInt32)]
  let up ← fields.required shape "up" Json.asFlag
  let mtu ← fields.required shape "mtu" Json.asUInt32
  fields.refuseSurplus shape
  return ⟨up, mtu⟩

/-- A state as the description of a value. -/
def describe (s : LinkState) : String :=
  "LinkState \x7b " ++ s!"up: {s.up}, mtu: {s.mtu}" ++ " \x7d"

end LinkState

end InterfaceManager

import InterfaceManager.Address.Basic
import InterfaceManager.IfIndex
import InterfaceManager.Link.State
import InterfaceManager.Session

/-!
# Control of interfaces

The queries and changes of interfaces that the library needs.  Each of them
is made in the namespace that the thread is in at that moment.
-/

namespace InterfaceManager

/-- The operations on interfaces on a host of type `η`. -/
structure LinkControl (η : Type) where
  /-- The current name of the interface with an index. -/
  resolveName : IfIndex → Action (Session η) String
  /-- The observed state of an interface. -/
  linkState : String → Action (Session η) LinkState
  /-- Brings an interface up or down. -/
  setUp : String → Bool → Action (Session η) Unit
  /-- Adds a local address with a prefix length. -/
  addAddress : String → Address → UInt8 → Action (Session η) Unit
  /-- Adds a route to a destination with a prefix length, through a gateway
  or directly. -/
  addRoute : String → Address → UInt8 → Option Address →
    Action (Session η) Unit

end InterfaceManager

import InterfaceManager.Namespace.Handle
import InterfaceManager.Session

/-!
# Providers of namespaces

A provider opens handles to namespaces and switches the thread into a
namespace and back.  The library works with any provider; two of them are
part of it, one in memory and one for a modelled system.
-/

namespace InterfaceManager

/-- The three operations of a provider on a host of type `η`. -/
structure NamespaceProvider (η : Type) where
  /-- Opens a handle to the namespace of a name. -/
  openHandle : String → Action (Session η) Handle
  /-- Switches the thread into the namespace of a handle. -/
  enter : Handle → Action (Session η) SwitchState
  /-- Switches the thread back to where it was. -/
  exit : SwitchState → Action (Session η) Unit

end InterfaceManager

import InterfaceManager.Device.Manager
import InterfaceManager.System.Interfaces
import InterfaceManager.System.Namespaces

/-!
# Managers on a machine

The backend for managers that work on the namespaces and interfaces of a
machine.
-/

namespace InterfaceManager

def Machine.backend (config : NamespaceConfig) :
    Backend Machine Machine.Change :=
  ⟨provider config, control, adjust⟩

end InterfaceManager

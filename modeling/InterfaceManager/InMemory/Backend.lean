import InterfaceManager.Device.Manager
import InterfaceManager.InMemory.Host

/-!
# Managers in memory

The backend for managers whose namespaces and interfaces are in memory.
-/

namespace InterfaceManager

def MemoryHost.backend : Backend MemoryHost MemoryHost.Adjustment :=
  ⟨provider, control, adjust⟩

end InterfaceManager

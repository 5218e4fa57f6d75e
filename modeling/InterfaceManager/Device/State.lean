import InterfaceManager.Device.Basic
import InterfaceManager.Device.Manager

/-!
# Devices at work

The operations of a device act on the device and on the manager that it
belongs to.  What callbacks were called with, and how their instructions
ended, is reported in order.
-/

namespace InterfaceManager

inductive Report (ε : Type) where
  /-- The callback for `observation` was called when the device was as
  given. -/
  | called (observation : Observation) (device : Device ε)
  /-- An instruction was followed. -/
  | followed (result : Except Error Unit)
  /-- An instruction looked at the names of the devices. -/
  | saw (names : List String)

/-- A device, its manager, and what has been reported so far. -/
structure DeviceState (η ε : Type) where
  manager : Manager η
  device : Device ε
  reports : List (Report ε)

namespace DeviceState

def onManager (act : Action (Manager η) α) :
    Action (DeviceState η ε) α :=
  Action.focus manager (fun m s => { s with manager := m }) act

def getDevice : Action (DeviceState η ε) (Device ε) :=
  return (← get).device

def changeDevice (change : Device ε → Device ε) :
    Action (DeviceState η ε) Unit :=
  modify fun s => { s with device := change s.device }

def report (r : Report ε) : Action (DeviceState η ε) Unit :=
  modify fun s => { s with reports := s.reports ++ [r] }

def note (n : Notice) : Action (DeviceState η ε) Unit :=
  onManager (Manager.note n)

end DeviceState

end InterfaceManager

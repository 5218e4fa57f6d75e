import InterfaceManager.Device.Registration

/-!
# Changes of the interface of a device

Each change is made inside the namespace of the device, on the interface
called as it was when its name was last resolved.  The device itself stays
as it is.
-/

namespace InterfaceManager.Device

/-- Runs `act` on the name of the interface, inside the namespace of the
device. -/
def onInterface (backend : Backend η ε) (device : Device ε)
    (operation : String) (act : String → Action (Session η) α) :
    Action (Manager η) α :=
  match device.context, device.devName with
  | some context, some devName =>
    let span : Span :=
      ⟨device.name, some devName, device.ifindex, context.name⟩
    Manager.inSpan span
      (Manager.within backend context operation (act devName))
  | _, _ => Action.fail (.notRegistered device.name)

def bringUpDown (backend : Backend η ε) (device : Device ε) (up : Bool) :
    Action (Manager η) Unit :=
  onInterface backend device "bring_up_down" fun devName => do
    Session.note (.bringing devName up)
    backend.links.setUp devName up

def addAddress (backend : Backend η ε) (device : Device ε)
    (address : Address) (length : UInt8) : Action (Manager η) Unit :=
  onInterface backend device "add_address" fun devName => do
    Session.note (.addingAddress devName address length)
    backend.links.addAddress devName address length

/-- Adds a route through the interface, directly or by a gateway. -/
def addRoute (backend : Backend η ε) (device : Device ε)
    (destination : Address) (length : UInt8) (gateway : Option Address) :
    Action (Manager η) Unit :=
  onInterface backend device "add_route" fun devName => do
    Session.note (.addingRoute devName destination length gateway)
    backend.links.addRoute devName destination length gateway

/-- The present name and state of the interface. -/
def query (backend : Backend η ε) (device : Device ε) :
    Action (Manager η) (String × LinkState) :=
  onInterface backend device "refresh_link_state" fun _ => do
    let devName ← backend.links.resolveName device.ifindex
    let state ← backend.links.linkState devName
    return (devName, state)

end InterfaceManager.Device

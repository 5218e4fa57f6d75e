import InterfaceManager.Device.State

/-!
# Registration of devices

A device is configured while it is unregistered.  Registering it takes a
share of the context of its namespace and resolves the name of its
interface inside that namespace; unregistering it gives the context back
and forgets what was observed.  A registration that fails gives back what
it has taken.
-/

namespace InterfaceManager

namespace Manager

/-- Enters a new device into the registry. -/
def allocate (name : String) : Action (Manager η) (Device ε) := do
  let id ← onRegistry fun registry => registry.insert name
  note (.deviceAllocated name id.number)
  return .fresh id name

/-- A share of the context of a namespace. -/
def acquire (backend : Backend η ε) (netns : String) :
    Action (Manager η) Context :=
  Action.mapError (.contextAcquisition netns)
    (onPool (Pooled.acquire backend.provider netns))

/-- Gives a share of a context back. -/
def release (context : Context) : Action (Manager η) Unit :=
  onPool (Pooled.release context)

/-- Binds a device to an interface.  Gives the devices that were bound to
the same interface before. -/
def bind (id : DeviceId) (binding : Binding) :
    Action (Manager η) (List DeviceId) :=
  onRegistry fun registry =>
    (registry.boundTo binding, registry.bind id binding)

/-- Takes the context of the namespace that `device` selects and resolves
the name of the interface there.  The context is given back if that
fails. -/
def attach (backend : Backend η ε) (device : Device ε) :
    Action (Manager η) (Context × String) := do
  let context ← acquire backend device.netnsKey
  let resolved ← Action.tried <|
    within backend context "register" (backend.links.resolveName device.ifindex)
  match resolved with
  | .ok devName => return (context, devName)
  | .error e =>
    note (.registrationFailed e)
    release context
    Action.fail e

end Manager

namespace DeviceState

def ensureUnregistered : Action (DeviceState η ε) Unit := do
  let device ← getDevice
  if device.isRegistered then
    Action.fail (.alreadyRegistered device.name)

/-- Selects an interface by its index. -/
def setIfindex (ifindex : IfIndex) : Action (DeviceState η ε) Unit := do
  ensureUnregistered
  changeDevice fun device => { device with ifindex }

/-- Selects the namespace of the interface. -/
def setNetns (netns : Option String) : Action (DeviceState η ε) Unit := do
  ensureUnregistered
  changeDevice fun device => { device with netns }

/-- Binds the device to the interface it selects. -/
def register (backend : Backend η ε) : Action (DeviceState η ε) Unit := do
  ensureUnregistered
  let device ← getDevice
  let span : Span := ⟨device.name, none, device.ifindex, device.netnsKey⟩
  let (context, devName) ← onManager <| Manager.inSpan span do
    let (context, devName) ← Manager.attach backend device
    let others ← Manager.bind device.id device.selected
    if others ≠ [] then
      Manager.note (.interfaceShared devName others.length)
    Manager.note <| .lifecycle device.name
      (.registered devName device.ifindex device.netnsKey)
    return (context, devName)
  changeDevice fun device =>
    { device with devName := some devName, context := some context }

/-- Releases the interface and the context of its namespace. -/
def unregister : Action (DeviceState η ε) Unit := do
  let device ← getDevice
  match device.context with
  | none => Action.fail (.alreadyUnregistered device.name)
  | some context =>
    changeDevice fun device =>
      { device with context := none, up := none, mtu := none, devName := none }
    onManager do
      Manager.onRegistry fun registry => ((), registry.unbind device.id)
      Manager.release context
      Manager.note (.lifecycle device.name .unregistered)

/-- Unregisters the device if needed and forgets it. -/
def free : Action (DeviceState η ε) Unit := do
  let device ← getDevice
  if device.isRegistered then
    unregister
  onManager do
    Manager.onRegistry fun registry => ((), registry.remove device.id)
    Manager.note (.deviceFreed device.name)

end DeviceState

namespace Manager

/-- Unregisters a device if needed and forgets it. -/
def free (device : Device ε) : Action (Manager η) Unit :=
  Action.focus (fun m => (⟨m, device, []⟩ : DeviceState η ε))
    (fun s _ => s.manager) DeviceState.free

end Manager

end InterfaceManager

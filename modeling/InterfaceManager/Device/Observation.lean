import InterfaceManager.Device.Interface

/-!
# Observations of devices

A registered device takes note of what is observed on its interface.  A
value that is new changes the device and calls the callback of its kind.
The callback of a rename runs before the new name is stored, the other two
after their value is.  A callback is away from the device while it runs, and
one that panics does not come back.
-/

namespace InterfaceManager

def Observation.changeOf (device : Device ε) : Observation → Change
  | .upDown up => .linkUpDown up
  | .devName name => .renamed (device.devName.getD "") name
  | .mtu value => .mtuChanged value

namespace DeviceState

def follow (backend : Backend η ε) :
    Instruction ε → Action (DeviceState η ε) Unit
  | .bringUpDown up => do
    let device ← getDevice
    let result ← Action.tried <|
      onManager (Device.bringUpDown backend device up)
    report (.followed result)
  | .addAddress address length => do
    let device ← getDevice
    let result ← Action.tried <|
      onManager (Device.addAddress backend device address length)
    report (.followed result)
  | .addRoute destination length gateway => do
    let device ← getDevice
    let result ← Action.tried <|
      onManager (Device.addRoute backend device destination length gateway)
    report (.followed result)
  | .allocateBriefly name => do
    let brief : Device ε ← onManager (Manager.allocate name)
    report (.saw (← get).manager.registry.names)
    onManager (Manager.free brief)
  | .panic message => Action.panic message
  | .adjust change => do
    onManager <| Manager.inSession <| modify fun s =>
      { s with host := backend.adjust s.host change }
    report (.followed (.ok ()))

def call (backend : Backend η ε) (observation : Observation) :
    Action (DeviceState η ε) Unit := do
  let device ← getDevice
  match device.callback observation.kind with
  | none => return ()
  | some callback =>
    changeDevice fun device => device.setCallback none observation.kind
    report (.called observation (← getDevice))
    callback.forM (follow backend)
    changeDevice fun device =>
      device.setCallback (some callback) observation.kind

def notify (backend : Backend η ε) (observation : Observation) :
    Action (DeviceState η ε) Unit := do
  let device ← getDevice
  if !device.isRegistered then
    note (.observationIgnored device.name observation.kind.label)
  else if device.observed observation.kind = some observation then
    return ()
  else
    let change := Notice.lifecycle device.name (observation.changeOf device)
    match observation with
    | .devName _ =>
      note change
      call backend observation
      changeDevice fun device => device.store observation
    | _ =>
      changeDevice fun device => device.store observation
      note change
      call backend observation

/-- Queries the interface and feeds what was found to the device: its name,
its administrative state and its MTU, in this order. -/
def refresh (backend : Backend η ε) : Action (DeviceState η ε) Unit := do
  let device ← getDevice
  let (devName, state) ← onManager (device.query backend)
  notify backend (.devName devName)
  notify backend (.upDown state.up)
  notify backend (.mtu state.mtu)

end DeviceState

end InterfaceManager

import InterfaceManager.Device.Observation
import InterfaceManager.Labelled

/-!
# Fleets of devices

A manager with any number of devices, each called by a label.  A run of a
fleet is a sequence of steps: a device is allocated or freed, does one of
its operations, or something happens to the host from outside.
-/

namespace InterfaceManager

inductive DeviceOperation (ε : Type) where
  | setIfindex (ifindex : IfIndex)
  | setNetns (netns : Option String)
  | setOwnerData (data : OwnerData)
  | takeOwnerData
  | setCallback (kind : ObservationKind) (callback : Option (Callback ε))
  | register
  | unregister
  | bringUpDown (up : Bool)
  | addAddress (address : Address) (length : UInt8)
  | addRoute (destination : Address) (length : UInt8)
      (gateway : Option Address)
  | refresh
  | notify (observation : Observation)
  deriving Repr

namespace DeviceState

/-- Runs a change of the interface of the device. -/
def onInterface (act : Device ε → Action (Manager η) Unit) :
    Action (DeviceState η ε) Unit := do
  let device ← getDevice
  onManager (act device)

def perform (backend : Backend η ε) :
    DeviceOperation ε → Action (DeviceState η ε) Unit
  | .setIfindex ifindex => setIfindex ifindex
  | .setNetns netns => setNetns netns
  | .setOwnerData data =>
    changeDevice fun device => { device with ownerData := some data }
  | .takeOwnerData =>
    changeDevice fun device => { device with ownerData := none }
  | .setCallback kind callback =>
    changeDevice fun device => device.setCallback callback kind
  | .register => register backend
  | .unregister => unregister
  | .bringUpDown up => onInterface fun device => device.bringUpDown backend up
  | .addAddress address length =>
    onInterface fun device => device.addAddress backend address length
  | .addRoute destination length gateway =>
    onInterface fun device =>
      device.addRoute backend destination length gateway
  | .refresh => refresh backend
  | .notify observation => notify backend observation

end DeviceState

/-- A manager, its devices by label, and what their callbacks have
reported. -/
structure Fleet (η ε : Type) where
  manager : Manager η
  devices : Labelled (Device ε)
  reports : List (Report ε)

inductive FleetStep (ε : Type) where
  /-- Allocates a device.  Another device under the same label is freed
  after that. -/
  | allocate (label name : String)
  | free (label : String)
  | operate (label : String) (operation : DeviceOperation ε)
  | adjust (change : ε)
  deriving Repr

namespace Fleet

/-- A fleet without devices on `host`. -/
def start (host : η) : Fleet η ε := ⟨.start host, [], []⟩

def onManager (act : Action (Manager η) α) : Action (Fleet η ε) α :=
  Action.focus manager (fun m f => { f with manager := m }) act

/-- Runs an action of the device under `label`, which is `device`. -/
def onDevice (label : String) (device : Device ε)
    (act : Action (DeviceState η ε) α) : Action (Fleet η ε) α :=
  Action.focus (fun f => ⟨f.manager, device, f.reports⟩)
    (fun s f =>
      { f with
        manager := s.manager
        devices := f.devices.put label s.device
        reports := s.reports }) act

/-- Makes a step.  A label without a device stands for no step. -/
def step (backend : Backend η ε) : FleetStep ε → Action (Fleet η ε) Unit
  | .allocate label name => do
    let device : Device ε ← onManager (Manager.allocate name)
    let old := (← get).devices.at? label
    modify fun f => { f with devices := f.devices.put label device }
    match old with
    | some old => onManager (Manager.free old)
    | none => return ()
  | .free label => do
    match (← get).devices.at? label with
    | some device =>
      modify fun f => { f with devices := f.devices.without label }
      onManager (Manager.free device)
    | none => return ()
  | .operate label operation => do
    match (← get).devices.at? label with
    | some device =>
      onDevice label device (DeviceState.perform backend operation)
    | none => return ()
  | .adjust change =>
    onManager <| Manager.inSession <| modify fun s =>
      { s with host := backend.adjust s.host change }

/-- Makes steps one after another, whatever way each of them ends in. -/
def run (backend : Backend η ε) (f : Fleet η ε) (steps : List (FleetStep ε)) :
    Fleet η ε :=
  steps.foldl (fun f s => (Action.outcome (step backend s) f).2) f

end Fleet

end InterfaceManager

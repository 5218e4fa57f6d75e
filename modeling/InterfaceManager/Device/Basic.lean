import InterfaceManager.Address.Basic
import InterfaceManager.Device.Registry
import InterfaceManager.Link.State
import InterfaceManager.Namespace.Context

/-!
# Managed devices

A device designates one interface by its namespace and its index.  While it
is registered it holds the context of the namespace and knows the name of
the interface; what is observed on the interface is remembered, and every
change of it can be reported to a callback.
-/

namespace InterfaceManager

/-- What an instruction of a callback does: with the device it belongs to, or
with one of its own, which it does not keep.  The type `ε` is that of things
that happen to the host from outside. -/
inductive Instruction (ε : Type) where
  /-- Brings the interface of the device up or down. -/
  | bringUpDown (up : Bool)
  /-- Adds an address to the interface of the device. -/
  | addAddress (address : Address) (length : UInt8)
  /-- Adds a route through the interface of the device. -/
  | addRoute (destination : Address) (length : UInt8)
      (gateway : Option Address)
  /-- Allocates a device, looks at the names of all devices, and frees the
  device again. -/
  | allocateBriefly (name : String)
  /-- Ends everything in progress. -/
  | panic (message : String)
  /-- Lets something happen to the host. -/
  | adjust (change : ε)
  deriving Repr

/-- What a callback does when it is called: its instructions in order. -/
abbrev Callback (ε : Type) := List (Instruction ε)

/-- A value observed on the interface of a device. -/
inductive Observation where
  | upDown (up : Bool)
  | devName (name : String)
  | mtu (mtu : UInt32)
  deriving DecidableEq, Repr

/-- The three kinds of observations. -/
inductive ObservationKind where
  | upDown
  | devName
  | mtu
  deriving DecidableEq, Repr

namespace ObservationKind

def label : ObservationKind → String
  | upDown => "ifupdown"
  | devName => "dev_name"
  | mtu => "mtu"

end ObservationKind

def Observation.kind : Observation → ObservationKind
  | upDown _ => .upDown
  | devName _ => .devName
  | mtu _ => .mtu

/-- Data that the owner of a device keeps with it. -/
inductive OwnerData where
  | text (s : String)
  | number (n : UInt64)
  deriving DecidableEq, Repr

structure Device (ε : Type) where
  id : DeviceId
  name : String
  ifindex : IfIndex
  /-- The namespace of the interface; without one it is the default
  namespace. -/
  netns : Option String
  /-- The name of the interface, known while the device is registered. -/
  devName : Option String
  ownerData : Option OwnerData
  onUpDown : Option (Callback ε)
  onDevName : Option (Callback ε)
  onMtu : Option (Callback ε)
  /-- The administrative state observed last. -/
  up : Option Bool
  /-- The MTU observed last. -/
  mtu : Option UInt32
  /-- The context of the namespace, held exactly while the device is
  registered. -/
  context : Option Context
  deriving Repr

namespace Device

/-- A new device: not registered, and without a selected interface. -/
def fresh (id : DeviceId) (name : String) : Device ε where
  id
  name
  ifindex := .unset
  netns := none
  devName := none
  ownerData := none
  onUpDown := none
  onDevName := none
  onMtu := none
  up := none
  mtu := none
  context := none

/-- Whether a device is bound to its interface. -/
def isRegistered (d : Device ε) : Bool := d.context.isSome

/-- The name of the namespace that a device selects. -/
def netnsKey (d : Device ε) : String := d.netns.getD ""

def selected (d : Device ε) : Binding := ⟨d.netnsKey, d.ifindex⟩

def callback (d : Device ε) : ObservationKind → Option (Callback ε)
  | .upDown => d.onUpDown
  | .devName => d.onDevName
  | .mtu => d.onMtu

def setCallback (d : Device ε) (callback : Option (Callback ε)) :
    ObservationKind → Device ε
  | .upDown => { d with onUpDown := callback }
  | .devName => { d with onDevName := callback }
  | .mtu => { d with onMtu := callback }

/-- The value observed last, if it is known. -/
def observed (d : Device ε) : ObservationKind → Option Observation
  | .upDown => d.up.map .upDown
  | .devName => d.devName.map .devName
  | .mtu => d.mtu.map .mtu

/-- Stores an observed value. -/
def store (d : Device ε) : Observation → Device ε
  | .upDown up => { d with up := some up }
  | .devName name => { d with devName := some name }
  | .mtu mtu => { d with mtu := some mtu }

/-- An optional value as part of the description of a value. -/
def describeOption (describe : α → String) : Option α → String
  | none => "None"
  | some a => s!"Some({describe a})"

/-- A device as the description of a value. -/
def describe (d : Device ε) : String :=
  "Netdev \x7b id: " ++ d.id.describe
    ++ ", name: " ++ Text.quoted d.name
    ++ ", ifindex: " ++ d.ifindex.describe
    ++ ", netns_name: " ++ Text.quotedOption d.netns
    ++ ", dev_name: " ++ Text.quotedOption d.devName
    ++ ", registered: " ++ toString d.isRegistered
    ++ ", if_up: " ++ describeOption toString d.up
    ++ ", mtu: " ++ describeOption toString d.mtu
    ++ ", .. \x7d"

end Device

end InterfaceManager

import InterfaceManager.IfIndex
import InterfaceManager.Text.Quoted

/-!
# The registry of devices

A registry knows every live device by an identity, in the order in which
the devices were created, and for each one its name and the interface it is
bound to.  Identities grow and are never handed out twice.
-/

namespace InterfaceManager

/-- The identity of a device within one registry. -/
structure DeviceId where
  number : Nat
  deriving DecidableEq, Repr, Inhabited

namespace DeviceId

instance : ToString DeviceId := ⟨fun i => s!"#{i.number}"⟩

/-- An identity as part of the description of a value. -/
def describe (i : DeviceId) : String := s!"DeviceId({i.number})"

end DeviceId

/-- An interface designated by its namespace and its index there. -/
structure Binding where
  netns : String
  ifindex : IfIndex
  deriving DecidableEq, Repr

/-- What a registry knows about a device. -/
structure DeviceRecord where
  name : String
  /-- The interface of the device while it is registered. -/
  binding : Option Binding
  deriving DecidableEq, Repr

namespace DeviceRecord

/-- A record as part of the description of a value. -/
def describe (r : DeviceRecord) : String :=
  let binding :=
    match r.binding with
    | none => "None"
    | some b =>
      s!"Some(({Text.quoted b.netns}, {b.ifindex.describe}))"
  "DeviceRecord \x7b name: " ++ Text.quoted r.name
    ++ s!", binding: {binding}" ++ " \x7d"

end DeviceRecord

/-- The live devices, oldest first, and the number of the next identity. -/
structure Registry where
  next : Nat
  records : List (DeviceId × DeviceRecord)
  deriving DecidableEq, Repr, Inhabited

namespace Registry

/-- A registry without devices. -/
def empty : Registry := ⟨0, []⟩

/-- Enters a new device, which is not bound. -/
def insert (r : Registry) (name : String) : DeviceId × Registry :=
  (⟨r.next⟩, ⟨r.next + 1, r.records ++ [(⟨r.next⟩, ⟨name, none⟩)]⟩)

/-- What is known about a device. -/
def get? (r : Registry) (id : DeviceId) : Option DeviceRecord :=
  (r.records.find? (fun entry => entry.1 == id)).map Prod.snd

def remove (r : Registry) (id : DeviceId) : Registry :=
  { r with records := r.records.filter fun entry => entry.1 != id }

/-- Forgets a device and gives what was known about it. -/
def take (r : Registry) (id : DeviceId) : Option DeviceRecord × Registry :=
  (r.get? id, r.remove id)

/-- Sets what a device is bound to, if it is known. -/
def setBinding (r : Registry) (id : DeviceId) (binding : Option Binding) :
    Registry :=
  { r with records := r.records.map fun (key, record) =>
      if key = id then (key, { record with binding }) else (key, record) }

/-- Binds a device to an interface, instead of any other one. -/
def bind (r : Registry) (id : DeviceId) (binding : Binding) : Registry :=
  r.setBinding id (some binding)

def unbind (r : Registry) (id : DeviceId) : Registry := r.setBinding id none

def boundTo (r : Registry) (binding : Binding) : List DeviceId :=
  (r.records.filter fun entry => entry.2.binding == some binding).map Prod.fst

def names (r : Registry) : List String :=
  r.records.map fun entry => entry.2.name

/-- The number of live devices. -/
def size (r : Registry) : Nat := r.records.length

/-- Whether no device is live. -/
def isEmpty (r : Registry) : Bool := r.records.isEmpty

/-- A registry as the description of a value. -/
def describe (r : Registry) : String :=
  let devices := r.records.map fun (id, record) =>
    s!"{id.describe}: {record.describe}"
  "DeviceRegistry \x7b next_id: " ++ toString r.next ++ ", devices: \x7b"
    ++ ", ".intercalate devices ++ "\x7d \x7d"

end Registry

end InterfaceManager

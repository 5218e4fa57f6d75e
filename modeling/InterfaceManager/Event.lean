import InterfaceManager.IfIndex
import InterfaceManager.Timestamp

/-!
# Lifecycle events of managed devices

What happens to a device between its allocation and its release, with the
identifying name of the device and the time.
-/

namespace InterfaceManager

/-- What happened to a device. -/
inductive Change where
  /-- The device was bound to the interface `ifindex` of `netns`, which was
  called `devName` at that moment. -/
  | registered (devName : String) (ifindex : IfIndex) (netns : String)
  /-- The device released its interface. -/
  | unregistered
  /-- The administrative state of the interface changed. -/
  | linkUpDown (up : Bool)
  /-- The system renamed the interface. -/
  | renamed (oldName newName : String)
  /-- The MTU of the interface changed. -/
  | mtuChanged (mtu : UInt32)
  deriving DecidableEq, Repr

structure Event where
  device : String
  change : Change
  time : Timestamp
  deriving DecidableEq, Repr

namespace Change

/-- The name of a kind of change. -/
def label : Change → String
  | registered .. => "registered"
  | unregistered => "unregistered"
  | linkUpDown _ => "link_up_down"
  | renamed .. => "renamed"
  | mtuChanged _ => "mtu_changed"

def report (device : String) : Change → String
  | registered devName ifindex _ =>
    s!"Device {device} registered on {devName} (ifindex {ifindex})"
  | unregistered => s!"Device {device} unregistered"
  | linkUpDown true => s!"Device {device} is UP"
  | linkUpDown false => s!"Device {device} is DOWN"
  | renamed oldName newName =>
    s!"Device {device} renamed {oldName} -> {newName}"
  | mtuChanged mtu => s!"Device {device} MTU is {mtu}"

end Change

instance : ToString Event := ⟨fun e => e.change.report e.device⟩

end InterfaceManager

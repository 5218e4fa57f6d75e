import InterfaceManager.Address.Printer
import InterfaceManager.Error
import InterfaceManager.Event

/-!
# Notices

Everything that the library reports while it works.  A notice says what
happened; its level, its sentence and its fields are functions of it.
-/

namespace InterfaceManager

/-- How much a notice matters, from most to least. -/
inductive Level where
  | error
  | warning
  | info
  | debug
  | trace
  deriving DecidableEq, Repr

/-- The rank of a level; a higher rank matters less. -/
def Level.rank : Level → Nat
  | error => 1
  | warning => 2
  | info => 3
  | debug => 4
  | trace => 5

/-- A value attached to a notice. -/
inductive FieldValue where
  | text (s : String)
  | number (n : Nat)
  | flag (b : Bool)
  deriving DecidableEq, Repr

/-- What the library reports. -/
inductive Notice where
  /-- A context already in the pool got another user. -/
  | contextReused (netns : String) (refcount : Nat)
  /-- A handle for a new context is about to be opened. -/
  | contextPrepared (netns : String)
  | contextCreated (netns : String)
  /-- A user gave a context back. -/
  | contextReleased (netns : String) (refcount : Nat)
  | handleClosed (netns : String)
  /-- The last user gave a context back. -/
  | contextDestroyed (netns : String)
  /-- A switch was asked for after the context had been closed. -/
  | contextAlreadyClosed (netns operation : String)
  | switching (netns operation : String)
  | switchFailed (netns operation : String) (cause : Error)
  | switchedBack (netns operation : String)
  | switchBackFailed (netns operation : String) (cause : Error)
  /-- Notices of the in-memory namespaces. -/
  | memoryNamespaceMissing (netns : String)
  | memoryNamespaceOpened (netns : String) (opens : Nat)
  | memoryNamespaceEntered (netns : String) (depth : Nat)
  | memoryNamespaceLeft (netns : String) (depth : Nat)
  /-- Notices of the in-memory links. -/
  | memoryLinkChanged (netns devName operation : String)
  /-- Notices of the namespaces of the system. -/
  | fileOpening (netns path : String)
  | threadEntered (netns : String)
  | threadReturned (netns : String)
  /-- Notices of the interfaces of the system. -/
  | queryFailed (devName operation : String) (cause : Errno)
  | changeUnsupported (devName operation : String)
  | indexUnresolved (ifindex : IfIndex) (cause : Errno)
  | deviceAllocated (device : String) (id : Nat)
  | deviceFreed (device : String)
  | registrationFailed (cause : Error)
  /-- Other device objects are registered on the same interface. -/
  | interfaceShared (devName : String) (others : Nat)
  | bringing (devName : String) (up : Bool)
  | addingAddress (devName : String) (address : Address) (length : UInt8)
  | addingRoute (devName : String) (destination : Address) (length : UInt8)
      (gateway : Option Address)
  /-- An observation arrived for a device that is not registered. -/
  | observationIgnored (device kind : String)
  | lifecycle (device : String) (change : Change)
  /-- Notices of the polling command. -/
  | watching (devName : String) (interval : Nat)
  | pollLimitReached (polls : Nat)
  | interrupted
  deriving Repr

namespace Notice

def level : Notice → Level
  | contextAlreadyClosed .. | switchFailed .. | switchBackFailed ..
  | queryFailed .. | changeUnsupported .. => .error
  | registrationFailed _ | interfaceShared .. => .warning
  | contextPrepared _ | contextDestroyed _ | bringing .. | addingAddress ..
  | addingRoute .. | lifecycle .. | watching .. | interrupted => .info
  | memoryNamespaceEntered .. | memoryNamespaceLeft .. | threadEntered _
  | threadReturned _ => .trace
  | contextReused .. | contextCreated _ | contextReleased ..
  | handleClosed _ | switching .. | switchedBack ..
  | memoryNamespaceMissing _ | memoryNamespaceOpened ..
  | memoryLinkChanged .. | fileOpening .. | indexUnresolved ..
  | deviceAllocated .. | deviceFreed _ | observationIgnored ..
  | pollLimitReached _ => .debug

/-- The sentence that reports a change in a notice. -/
def changeSentence : Change → String
  | .registered .. => "Device registered"
  | .unregistered => "Device unregistered"
  | .linkUpDown _ => "Link state changed"
  | .renamed .. => "Interface renamed"
  | .mtuChanged _ => "MTU changed"

def message : Notice → String
  | contextReused .. => "Reusing namespace context"
  | contextPrepared _ => "Prepare netns: opening namespace"
  | contextCreated _ => "Created namespace context"
  | contextReleased .. => "Released namespace context"
  | handleClosed _ => "Closing namespace handle"
  | contextDestroyed _ => "Namespace context destroyed"
  | contextAlreadyClosed .. => "Namespace context already closed"
  | switching .. => "Switch to netns"
  | switchFailed .. => "Cannot switch to netns"
  | switchedBack .. => "Back from netns"
  | switchBackFailed .. => "Cannot switch back from netns"
  | memoryNamespaceMissing _ => "Mock: Namespace not found"
  | memoryNamespaceOpened .. => "Mock: Opened namespace"
  | memoryNamespaceEntered .. => "Mock: Entered namespace"
  | memoryNamespaceLeft .. => "Mock: Exited namespace"
  | memoryLinkChanged .. => "Mock: Applied mutation"
  | fileOpening .. => "Opening namespace"
  | threadEntered _ => "setns done"
  | threadReturned _ => "setns back done"
  | queryFailed .. => "ioctl failed"
  | changeUnsupported .. => "Not supported without a netlink route backend"
  | indexUnresolved .. => "if_indextoname failed"
  | deviceAllocated .. => "Allocated device object"
  | deviceFreed _ => "Freed device object"
  | registrationFailed _ => "Registration failed"
  | interfaceShared .. => "Interface is already managed by another device object"
  | bringing devName up =>
    let state := if up then "up" else "down"
    s!"Bringing dev {devName} {state}"
  | addingAddress devName address length =>
    s!"Adding address {address}/{length} to dev {devName}"
  | addingRoute devName destination length (some gateway) =>
    s!"Adding route {destination}/{length} via {gateway} dev {devName}"
  | addingRoute devName destination length none =>
    s!"Adding route {destination}/{length} dev {devName}"
  | observationIgnored .. => "Ignoring notification for unregistered device"
  | lifecycle _ change => changeSentence change
  | watching .. => "Watching interface (Ctrl-C to stop)"
  | pollLimitReached _ => "Poll limit reached"
  | interrupted => "Interrupted, stopping"

/-- The fields that a change adds to its notice. -/
def changeFields : Change → List (String × FieldValue)
  | .registered devName ifindex netns =>
    [("dev", .text devName), ("ifindex", .number ifindex.raw.toNat),
      ("netns", .text netns)]
  | .unregistered => []
  | .linkUpDown up => [("up", .flag up)]
  | .renamed oldName newName =>
    [("old_name", .text oldName), ("new_name", .text newName)]
  | .mtuChanged mtu => [("mtu", .number mtu.toNat)]

def fields : Notice → List (String × FieldValue)
  | contextReused netns refcount | contextReleased netns refcount =>
    [("netns", .text netns), ("refcount", .number refcount)]
  | contextPrepared netns | contextCreated netns | handleClosed netns
  | contextDestroyed netns | memoryNamespaceMissing netns
  | threadEntered netns | threadReturned netns => [("netns", .text netns)]
  | contextAlreadyClosed netns operation | switching netns operation
  | switchedBack netns operation =>
    [("netns", .text netns), ("operation", .text operation)]
  | switchFailed netns operation cause
  | switchBackFailed netns operation cause =>
    [("netns", .text netns), ("operation", .text operation),
      ("error", .text cause.message)]
  | memoryNamespaceOpened netns opens =>
    [("netns", .text netns), ("opens", .number opens)]
  | memoryNamespaceEntered netns depth | memoryNamespaceLeft netns depth =>
    [("netns", .text netns), ("depth", .number depth)]
  | memoryLinkChanged netns devName operation =>
    [("netns", .text netns), ("dev", .text devName),
      ("operation", .text operation)]
  | fileOpening netns path => [("netns", .text netns), ("path", .text path)]
  | queryFailed devName operation cause =>
    [("dev", .text devName), ("operation", .text operation),
      ("error", .text cause.message)]
  | changeUnsupported devName operation =>
    [("dev", .text devName), ("operation", .text operation)]
  | indexUnresolved ifindex cause =>
    [("ifindex", .number ifindex.raw.toNat), ("error", .text cause.message)]
  | deviceAllocated device id =>
    [("netdev", .text device), ("id", .text s!"#{id}")]
  | deviceFreed device => [("netdev", .text device)]
  | registrationFailed cause => [("error", .text cause.message)]
  | interfaceShared devName others =>
    [("dev", .text devName), ("others", .number others)]
  | bringing .. | addingAddress .. | addingRoute .. | interrupted => []
  | observationIgnored device kind =>
    [("netdev", .text device), ("kind", .text kind)]
  | lifecycle device change =>
    [("netdev", .text device), ("event", .text change.label)]
      ++ changeFields change
  | watching devName interval =>
    [("dev", .text devName), ("interval", .number interval)]
  | pollLimitReached polls => [("polls", .number polls)]

/-- The part of the library that a notice comes from, as log filters name
it. -/
def target : Notice → String
  | contextReused .. | contextPrepared _ | contextCreated _
  | contextReleased .. | handleClosed _ | contextDestroyed _ =>
    "netdev_namespace::pool"
  | contextAlreadyClosed .. | switching .. | switchFailed ..
  | switchedBack .. | switchBackFailed .. => "netdev_namespace::scope"
  | memoryNamespaceMissing _ | memoryNamespaceOpened ..
  | memoryNamespaceEntered .. | memoryNamespaceLeft .. =>
    "netdev_namespace::provider"
  | fileOpening .. | threadEntered _ | threadReturned _ =>
    "netdev_namespace::system"
  | memoryLinkChanged .. => "netdev_link::backend"
  | queryFailed .. | changeUnsupported .. | indexUnresolved .. =>
    "netdev_link::controller"
  | deviceAllocated .. => "netdev_device::manager"
  | deviceFreed _ | registrationFailed _ | interfaceShared .. | bringing ..
  | addingAddress .. | addingRoute .. | observationIgnored .. =>
    "netdev_device::device"
  | lifecycle .. => "netdev_core::events"
  | watching .. | pollLimitReached _ | interrupted =>
    "netdev::commands::watch"

end Notice

/-- An operation of a device during which notices are taken. -/
structure Span where
  device : String
  /-- The name of the interface, once it is known. -/
  devName : Option String
  ifindex : IfIndex
  netns : String
  deriving DecidableEq, Repr

def Span.fields (s : Span) : List (String × FieldValue) :=
  [("netdev", .text s.device)]
    ++ (s.devName.map fun devName => ("dev", FieldValue.text devName)).toList
    ++ [("ifindex", .number s.ifindex.raw.toNat), ("netns", .text s.netns)]

/-- A notice with the innermost span that was open when it was taken. -/
structure Entry where
  notice : Notice
  span : Option Span
  deriving Repr

/-- The notices taken so far, oldest first, and the open spans, innermost
first. -/
structure Journal where
  entries : Array Entry
  spans : List Span
  deriving Repr, Inhabited

namespace Journal

/-- A journal without notices. -/
def empty : Journal := ⟨#[], []⟩

/-- Takes a notice in the innermost open span. -/
def take (j : Journal) (n : Notice) : Journal :=
  { j with entries := j.entries.push ⟨n, j.spans.head?⟩ }

def enter (j : Journal) (span : Span) : Journal :=
  { j with spans := span :: j.spans }

/-- Closes the innermost span. -/
def leave (j : Journal) : Journal := { j with spans := j.spans.drop 1 }

end Journal

end InterfaceManager

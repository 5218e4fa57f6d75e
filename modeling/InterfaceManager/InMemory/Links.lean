import InterfaceManager.Link.Control

/-!
# Interfaces in memory

A table of interfaces, each in its namespace and under its index, for
working without a kernel.  Every call made on the table is recorded with
the namespace it was made in.  Changes are refused unless they have been
allowed.
-/

namespace InterfaceManager

structure LocalAddress where
  address : Address
  length : UInt8
  deriving DecidableEq, Repr

/-- A route through an interface. -/
structure Route where
  destination : Address
  length : UInt8
  gateway : Option Address
  deriving DecidableEq, Repr

structure MemoryLink where
  name : String
  up : Bool
  mtu : UInt32
  addresses : List LocalAddress
  routes : List Route
  deriving DecidableEq, Repr

/-- A fresh interface: down, and with the usual MTU. -/
def MemoryLink.fresh (name : String) : MemoryLink := ⟨name, false, 1500, [], []⟩

/-- Where an interface is: its namespace and its index. -/
structure LinkKey where
  netns : String
  ifindex : IfIndex
  deriving DecidableEq, Repr

inductive LinkRequest where
  | resolveName (ifindex : IfIndex)
  | linkState (devName : String)
  | setUp (devName : String) (up : Bool)
  | addAddress (devName : String) (address : LocalAddress)
  | addRoute (devName : String) (route : Route)
  deriving DecidableEq, Repr

/-- A recorded operation with the namespace it was made in. -/
structure LinkCall where
  netns : String
  request : LinkRequest
  deriving DecidableEq, Repr

/-- The interfaces in memory and the calls made on them. -/
structure MemoryLinks where
  table : List (LinkKey × MemoryLink)
  /-- The calls made so far, oldest first. -/
  calls : List LinkCall
  changesAllowed : Bool
  deriving DecidableEq, Repr, Inhabited

namespace MemoryLinks

def empty : MemoryLinks := ⟨[], [], false⟩

def link? (m : MemoryLinks) (key : LinkKey) : Option MemoryLink :=
  (m.table.find? (fun entry => entry.1 == key)).map Prod.snd

/-- Changes the interface at a key, if there is one. -/
def update (m : MemoryLinks) (key : LinkKey) (f : MemoryLink → MemoryLink) :
    MemoryLinks :=
  { m with table := m.table.map fun (k, link) =>
      if k = key then (k, f link) else (k, link) }

def remove (m : MemoryLinks) (key : LinkKey) : MemoryLinks :=
  { m with table := m.table.filter fun entry => entry.1 != key }

/-- Puts a fresh interface at a key, in place of any other one there. -/
def add (m : MemoryLinks) (key : LinkKey) (name : String) : MemoryLinks :=
  if (m.link? key).isSome then m.update key fun _ => .fresh name
  else { m with table := m.table ++ [(key, .fresh name)] }

/-- The interface called `devName` in `netns`, with its key. -/
def named? (m : MemoryLinks) (netns devName : String) :
    Option (LinkKey × MemoryLink) :=
  m.table.find? fun (key, link) => key.netns == netns && link.name == devName

def record (m : MemoryLinks) (netns : String) (request : LinkRequest) :
    MemoryLinks :=
  { m with calls := m.calls ++ [⟨netns, request⟩] }

def unknownName (operation devName : String) : Error :=
  .linkControl operation s!"No such device: {devName}"

/-- The current name of the interface with an index in `netns`. -/
def resolveName (netns : String) (ifindex : IfIndex) :
    Action (Session MemoryLinks) String := do
  modify fun s =>
    { s with host := s.host.record netns (.resolveName ifindex) }
  match (← get).host.link? ⟨netns, ifindex⟩ with
  | some link => return link.name
  | none => Action.fail (.noSuchDevice ifindex)

/-- The state of the interface called `devName` in `netns`. -/
def linkState (netns devName : String) :
    Action (Session MemoryLinks) LinkState := do
  modify fun s => { s with host := s.host.record netns (.linkState devName) }
  match (← get).host.named? netns devName with
  | some (_, link) => return ⟨link.up, link.mtu⟩
  | none => Action.fail (unknownName "link_state" devName)

/-- Records the change `request` and makes it on the interface called
`devName` in `netns`. -/
def change (operation netns devName : String) (request : LinkRequest)
    (f : MemoryLink → MemoryLink) : Action (Session MemoryLinks) Unit := do
  modify fun s => { s with host := s.host.record netns request }
  if (← get).host.changesAllowed then
    match (← get).host.named? netns devName with
    | some (key, _) =>
      modify fun s => { s with host := s.host.update key f }
      Session.note (.memoryLinkChanged netns devName operation)
    | none => Action.fail (unknownName operation devName)
  else Action.fail (.unsupported operation)

/-- Control of the interfaces of the namespace `netns`. -/
def control (netns : String) : LinkControl MemoryLinks where
  resolveName := resolveName netns
  linkState := linkState netns
  setUp devName up :=
    change "set_up" netns devName (.setUp devName up) fun link =>
      { link with up }
  addAddress devName address length :=
    change "add_address" netns devName (.addAddress devName ⟨address, length⟩)
      fun link =>
        { link with addresses := link.addresses ++ [⟨address, length⟩] }
  addRoute devName destination length gateway :=
    change "add_route" netns devName
      (.addRoute devName ⟨destination, length, gateway⟩) fun link =>
        { link with routes := link.routes ++ [⟨destination, length, gateway⟩] }

end MemoryLinks

end InterfaceManager

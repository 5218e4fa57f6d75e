import InterfaceManager.Link.Control
import InterfaceManager.System.Machine

/-!
# Interfaces of a machine

Interfaces are queried by their names in the namespace that the thread is
in.  They cannot be changed this way.
-/

namespace InterfaceManager.Machine

/-- The name of an interface in the form that queries take.  There has to be
room for a zero octet after it, and it holds none itself. -/
def queryName (devName : String) : Except Error Kernel.NameField :=
  let name := Text.octets devName
  if name = [] ∨ Kernel.nameSize ≤ name.length ∨ 0 ∈ name then
    .error (.linkControl "ifreq" s!"Invalid interface name '{devName}'")
  else .ok (.holding name)

def resolveName (ifindex : IfIndex) : Action (Session Machine) String := do
  let m := (← get).host
  match m.kernel.nameOf m.current ifindex with
  | .ok name => return Text.decodeLossy name
  | .error e =>
    Session.note (.indexUnresolved ifindex e)
    Action.fail (.noSuchDevice ifindex)

/-- The answer of one query about an interface. -/
def answer (operation devName : String) :
    Except Errno α → Action (Session Machine) α
  | .ok value => return value
  | .error e => do
    Session.note (.queryFailed devName operation e)
    Action.fail (.linkControl operation s!"{devName}: {e.message}")

/-- The state of an interface, by two queries through one socket. -/
def linkState (devName : String) : Action (Session Machine) LinkState := do
  let m := (← get).host
  match m.kernel.socket with
  | .error e =>
    Action.fail <| .linkControl "link_state"
      s!"Cannot create control socket: {e.symbolicMessage}"
  | .ok () =>
    let field ← Action.ofExcept (queryName devName)
    let flags ←
      answer "SIOCGIFFLAGS" devName (m.kernel.flagsOf m.current field)
    let mtu ← answer "SIOCGIFMTU" devName (m.kernel.mtuOf m.current field)
    return .ofKernel flags mtu

/-- Refuses a change. -/
def refuse (operation devName : String) : Action (Session Machine) Unit := do
  Session.note (.changeUnsupported devName operation)
  Action.fail (.unsupported operation)

def control : LinkControl Machine where
  resolveName := resolveName
  linkState := linkState
  setUp devName _ := refuse "set_up" devName
  addAddress devName _ _ := refuse "add_address" devName
  addRoute devName _ _ _ := refuse "add_route" devName

end InterfaceManager.Machine

import InterfaceManager.Device.Registry
import InterfaceManager.Link.Control
import InterfaceManager.Namespace.Pool
import InterfaceManager.Namespace.Scope

/-!
# Managers

A manager owns what its devices share: a pool of namespace contexts and a
registry of the devices.  It works on a host through a backend, which says
how namespaces are switched and how interfaces are controlled.
-/

namespace InterfaceManager

/-- How a manager works on a host of type `η`, and how things of type `ε`
that happen to the host change it. -/
structure Backend (η ε : Type) where
  provider : NamespaceProvider η
  links : LinkControl η
  adjust : η → ε → η

/-- The shared state of the devices of a manager. -/
structure Manager (η : Type) extends Pooled η where
  registry : Registry

namespace Manager

/-- A manager without devices on `host`. -/
def start (host : η) : Manager η :=
  { session := .start host
    contexts := .empty
    pool := .empty
    registry := .empty }

def onPool (act : Action (Pooled η) α) : Action (Manager η) α :=
  Action.focus toPooled (fun p m => { m with toPooled := p }) act

def inSession (act : Action (Session η) α) : Action (Manager η) α :=
  onPool (Pooled.inSession act)

def note (n : Notice) : Action (Manager η) Unit := inSession (Session.note n)

/-- Takes the notices of `act` in `span`. -/
def inSpan (span : Span) (act : Action (Manager η) α) :
    Action (Manager η) α := do
  modify fun m => { m with session := m.session.enterSpan span }
  Action.andFinally act fun m => { m with session := m.session.leaveSpan }

def onRegistry (change : Registry → α × Registry) : Action (Manager η) α :=
  modifyGet fun m =>
    let (value, registry) := change m.registry
    (value, { m with registry })

def within (backend : Backend η ε) (context : Context) (operation : String)
    (act : Action (Session η) α) : Action (Manager η) α := do
  let handle := (← get).contexts.handle? context
  inSession (runInNamespace backend.provider context handle operation act)

/-- A manager as the description of a value. -/
def describe (m : Manager η) : String :=
  "NetdevManager \x7b namespaces: " ++ Text.quotedList m.pool.names
    ++ ", devices: " ++ Text.quotedList m.registry.names ++ ", .. \x7d"

end Manager

end InterfaceManager

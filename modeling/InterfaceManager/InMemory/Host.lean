import InterfaceManager.InMemory.Links
import InterfaceManager.InMemory.Namespaces

/-!
# The host in memory

Namespaces and interfaces in memory side by side.  The interfaces learn the
namespace of a call from a probe, which usually asks the namespaces where
the thread is.  What happens to the host from outside is an adjustment.
-/

namespace InterfaceManager

/-- Where the interfaces learn the namespace of a call from. -/
inductive NamespaceProbe where
  /-- From the namespaces in memory. -/
  | current
  /-- From whoever set it last. -/
  | fixed (netns : String)
  deriving DecidableEq, Repr, Inhabited

structure MemoryHost where
  namespaces : MemoryNamespaces
  pending : PendingErrors
  links : MemoryLinks
  probe : NamespaceProbe
  deriving Repr, Inhabited

namespace MemoryHost

/-- A host with the given namespaces and interfaces. -/
def ofParts (namespaces : MemoryNamespaces) (links : MemoryLinks)
    (probe : NamespaceProbe) : MemoryHost :=
  ⟨namespaces, .none, links, probe⟩

/-- The namespace that a call on the interfaces is made in. -/
def callNamespace (h : MemoryHost) : String :=
  match h.probe with
  | .current => h.namespaces.current
  | .fixed netns => netns

def onNamespaces (act : Action (Session MemoryNamespaces) α) :
    Action (Session MemoryHost) α :=
  Action.focus (fun s => ⟨s.host.namespaces, s.journal⟩)
    (fun t s =>
      ⟨{ s.host with namespaces := t.host }, t.journal⟩) act

/-- Runs an action of the interfaces in the namespace of the call. -/
def onLinks (act : String → Action (Session MemoryLinks) α) :
    Action (Session MemoryHost) α := do
  let netns := (← get).host.callNamespace
  Action.focus (fun s => ⟨s.host.links, s.journal⟩)
    (fun t s => ⟨{ s.host with links := t.host }, t.journal⟩) (act netns)

/-- A call of the provider, unless an error is pending for it. -/
def unlessPending (call : ProviderCall)
    (act : Action (Session MemoryNamespaces) α) :
    Action (Session MemoryHost) α := do
  match (← get).host.pending.get call with
  | some e =>
    modify fun s =>
      { s with host := { s.host with pending := s.host.pending.set none call } }
    Action.fail e
  | none => onNamespaces act

def provider : NamespaceProvider MemoryHost where
  openHandle name :=
    unlessPending .opening (MemoryNamespaces.openHandle name)
  enter handle := unlessPending .entering (MemoryNamespaces.enter handle)
  exit state := unlessPending .exiting (MemoryNamespaces.exit state)

def control : LinkControl MemoryHost where
  resolveName ifindex :=
    onLinks fun netns => (MemoryLinks.control netns).resolveName ifindex
  linkState devName :=
    onLinks fun netns => (MemoryLinks.control netns).linkState devName
  setUp devName up :=
    onLinks fun netns => (MemoryLinks.control netns).setUp devName up
  addAddress devName address length :=
    onLinks fun netns =>
      (MemoryLinks.control netns).addAddress devName address length
  addRoute devName destination length gateway :=
    onLinks fun netns =>
      (MemoryLinks.control netns).addRoute devName destination length gateway

/-- What may happen to the host from outside. -/
inductive Adjustment where
  /-- Every attempt to enter a namespace fails. -/
  | failEnter (name : String)
  /-- Every attempt to leave a namespace fails. -/
  | failExit (name : String)
  /-- Switches no longer fail by name. -/
  | clearFailures
  | addNamespace (name : String)
  /-- The next call of a kind returns an error. -/
  | inject (call : ProviderCall) (e : Error)
  | renameLink (key : LinkKey) (name : String)
  | setLinkState (key : LinkKey) (state : LinkState)
  | removeLink (key : LinkKey)
  | addLink (key : LinkKey) (name : String)
  /-- Changes of interfaces are allowed or refused. -/
  | allowChanges (enable : Bool)
  /-- The probe reports a namespace, if it is one that can be set. -/
  | moveProbe (netns : String)
  deriving Repr

def adjust (h : MemoryHost) : Adjustment → MemoryHost
  | .failEnter name =>
    { h with namespaces :=
        { h.namespaces with
          failingEnter := name :: h.namespaces.failingEnter } }
  | .failExit name =>
    { h with namespaces :=
        { h.namespaces with failingExit := name :: h.namespaces.failingExit } }
  | .clearFailures =>
    { h with namespaces :=
        { h.namespaces with failingEnter := [], failingExit := [] } }
  | .addNamespace name =>
    { h with namespaces :=
        { h.namespaces with known := name :: h.namespaces.known } }
  | .inject call e => { h with pending := h.pending.set (some e) call }
  | .renameLink key name =>
    { h with links := h.links.update key fun link => { link with name } }
  | .setLinkState key state =>
    { h with links := h.links.update key fun link =>
        { link with up := state.up, mtu := state.mtu } }
  | .removeLink key => { h with links := h.links.remove key }
  | .addLink key name => { h with links := h.links.add key name }
  | .allowChanges enable =>
    { h with links := { h.links with changesAllowed := enable } }
  | .moveProbe netns => { h with probe := .fixed netns }

end MemoryHost

end InterfaceManager

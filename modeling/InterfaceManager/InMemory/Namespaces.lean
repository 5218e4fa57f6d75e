import InterfaceManager.Namespace.Provider

/-!
# Namespaces in memory

Namespaces that exist by name only, for working without a kernel.  The
namespaces entered and not yet left form a stack, whose innermost one is
where the thread is.  Switches can be made to fail by name, and any single
call by an error that it will return.
-/

namespace InterfaceManager

/-- Namespaces in memory and the switches between them. -/
structure MemoryNamespaces where
  /-- The names that can be opened. -/
  known : List String
  failingEnter : List String
  failingExit : List String
  /-- The namespaces entered and not left, innermost first. -/
  stack : List String
  /-- The number of handles opened. -/
  opens : Nat
  /-- The number of attempts to enter. -/
  enters : Nat
  /-- The number of attempts to leave. -/
  exits : Nat
  deriving DecidableEq, Repr, Inhabited

namespace MemoryNamespaces

/-- The namespaces called `known`, with the thread in the default one. -/
def ofNames (known : List String) : MemoryNamespaces :=
  ⟨known, [], [], [], 0, 0, 0⟩

/-- The namespace that the thread is in; the default one has the empty
name. -/
def current (m : MemoryNamespaces) : String := m.stack.head?.getD ""

/-- The number of switches in progress. -/
def depth (m : MemoryNamespaces) : Nat := m.stack.length

end MemoryNamespaces

/-- A call of a provider that can be made to fail once. -/
inductive ProviderCall where
  | opening
  | entering
  | exiting
  deriving DecidableEq, Repr

/-- The errors that the next calls return without being carried out. -/
structure PendingErrors where
  opening : Option Error
  entering : Option Error
  exiting : Option Error
  deriving Repr, Inhabited

namespace PendingErrors

/-- No call fails. -/
def none : PendingErrors := ⟨.none, .none, .none⟩

/-- The error that the next call of a kind returns. -/
def get (p : PendingErrors) : ProviderCall → Option Error
  | .opening => p.opening
  | .entering => p.entering
  | .exiting => p.exiting

/-- Sets or clears the error of the next call of a kind. -/
def set (p : PendingErrors) (e : Option Error) :
    ProviderCall → PendingErrors
  | .opening => { p with opening := e }
  | .entering => { p with entering := e }
  | .exiting => { p with exiting := e }

end PendingErrors

namespace MemoryNamespaces

/-- Opens a handle without a descriptor to a known name. -/
def openHandle (name : String) :
    Action (Session MemoryNamespaces) Handle := do
  if (← get).host.known.contains name then
    let opens := (← get).host.opens + 1
    modify fun s => { s with host := { s.host with opens } }
    Session.note (.memoryNamespaceOpened name opens)
    return .detached name
  else
    Session.note (.memoryNamespaceMissing name)
    Action.fail (.namespaceOpen name "No such file or directory")

/-- Puts the name of a handle on the stack. -/
def enter (handle : Handle) :
    Action (Session MemoryNamespaces) SwitchState := do
  modify fun s => { s with host := { s.host with enters := s.host.enters + 1 } }
  if (← get).host.failingEnter.contains handle.name then
    Action.fail (.namespaceSwitch handle.name "Operation not permitted")
  else
    modify fun s =>
      { s with host := { s.host with stack := handle.name :: s.host.stack } }
    Session.note (.memoryNamespaceEntered handle.name (← get).host.depth)
    return .detached handle.name

/-- Takes the innermost name off the stack. -/
def exit (state : SwitchState) :
    Action (Session MemoryNamespaces) Unit := do
  modify fun s => { s with host := { s.host with exits := s.host.exits + 1 } }
  if (← get).host.failingExit.contains state.target then
    Action.fail (.namespaceSwitch state.target "Invalid argument")
  else
    modify fun s =>
      { s with host := { s.host with stack := s.host.stack.drop 1 } }
    Session.note (.memoryNamespaceLeft state.target (← get).host.depth)

def provider : NamespaceProvider MemoryNamespaces :=
  ⟨openHandle, enter, exit⟩

end MemoryNamespaces

end InterfaceManager

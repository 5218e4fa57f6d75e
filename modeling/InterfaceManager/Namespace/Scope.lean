import InterfaceManager.Namespace.Context
import InterfaceManager.Namespace.Provider
import InterfaceManager.Text.Quoted

/-!
# Scoped switches into namespaces

A scope is a switch of the thread that has to be undone.  Running an
operation inside a namespace enters a scope, runs the operation and leaves
the scope again, in whatever way the operation ended.
-/

namespace InterfaceManager

/-- A switch in progress for an operation; nothing is saved in the default
namespace. -/
structure Scope where
  operation : String
  saved : Option SwitchState
  deriving DecidableEq, Repr

namespace Scope

def isSwitched (s : Scope) : Bool := s.saved.isSome

/-- A scope as the description of a value. -/
def describe (s : Scope) : String :=
  "NamespaceScope \x7b operation: " ++ Text.quoted s.operation
    ++ s!", switched: {s.isSwitched}, .. " ++ "\x7d"

/-- The wording for a switch into a context that has been closed. -/
def closedMessage : String := "Namespace context already closed"

def switchError (netns : String) : Error → Error
  | .namespaceSwitch other message => .namespaceSwitch other message
  | e => .namespaceSwitch netns e.message

/-- The error of a failed switch back from `netns`. -/
def restoreError (netns : String) : Error → Error
  | .namespaceSwitch _ message => .namespaceRestore netns message none
  | e => .namespaceRestore netns e.message none

/-- Switches into the namespace of `context`, whose open handle is `handle`.
The default namespace needs no switch. -/
def enter (provider : NamespaceProvider η) (context : Context)
    (handle : Option Handle) (operation : String) :
    Action (Session η) Scope := do
  if context.isDefault then
    return ⟨operation, none⟩
  match handle with
  | none =>
    Session.note (.contextAlreadyClosed context.name operation)
    Action.fail (.namespaceSwitch context.name closedMessage)
  | some handle =>
    Session.note (.switching context.name operation)
    match ← Action.attempt (provider.enter handle) with
    | .ok state => return ⟨operation, some state⟩
    | .error (.error e) =>
      Session.note (.switchFailed context.name operation e)
      Action.fail (switchError context.name e)
    | .error (.panic message) => Action.panic message

/-- Switches back to where the thread was before `state` was saved. -/
def restore (provider : NamespaceProvider η) (operation : String)
    (state : SwitchState) : Action (Session η) Unit := do
  match ← Action.attempt (provider.exit state) with
  | .ok () => Session.note (.switchedBack state.target operation)
  | .error (.error e) =>
    Session.note (.switchBackFailed state.target operation e)
    Action.fail (restoreError state.target e)
  | .error (.panic message) => Action.panic message

def exit (provider : NamespaceProvider η) (s : Scope) :
    Action (Session η) Unit :=
  match s.saved with
  | none => pure ()
  | some state => restore provider s.operation state

/-- Leaves a scope when nobody waits for the result: a failure is noted and
otherwise lost. -/
def drop (provider : NamespaceProvider η) (s : Scope) :
    Action (Session η) Unit := do
  match ← Action.attempt (s.exit provider) with
  | .error (.panic message) => Action.panic message
  | _ => return ()

end Scope

/-- Runs `act` inside the namespace of `context` and switches back in
whatever way it ended.  A failed switch back is the answer, with the failure
of `act` as its primary error; a panic of `act` goes on after the switch
back. -/
def runInNamespace (provider : NamespaceProvider η) (context : Context)
    (handle : Option Handle) (operation : String)
    (act : Action (Session η) α) : Action (Session η) α := do
  let scope ← Scope.enter provider context handle operation
  match ← Action.attempt act with
  | .ok value =>
    scope.exit provider
    return value
  | .error (.error e) =>
    match ← Action.attempt (scope.exit provider) with
    | .ok () => Action.fail e
    | .error (.error restore) => Action.fail (restore.withPrimary e)
    | .error (.panic message) => Action.panic message
  | .error (.panic message) =>
    scope.drop provider
    Action.panic message

end InterfaceManager

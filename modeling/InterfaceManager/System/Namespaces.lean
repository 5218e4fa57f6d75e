import InterfaceManager.Namespace.Config
import InterfaceManager.Namespace.Provider
import InterfaceManager.System.Machine

/-!
# Namespaces of a machine

Named namespaces are files of one directory.  Entering one saves the way
back first, then blocks the signals, and then moves the thread; leaving it
moves the thread back and only then gives the signals back.
-/

namespace InterfaceManager.Machine

def openHandle (config : NamespaceConfig) (name : String) :
    Action (Session Machine) Handle := do
  match config.namespacePath? name with
  | none => Action.fail (.namespaceOpen name "Invalid namespace name")
  | some path =>
    let shown := Text.decodeLossy path
    Session.note (.fileOpening name shown)
    match (← get).host.openFile path with
    | .ok object => return ⟨name, some object⟩
    | .error fault =>
      Action.fail (.namespaceOpen name s!"{shown}: {fault.message}")

/-- Blocks the signals, if that is configured.  Gives the signals that were
blocked before. -/
def saveSignals (config : NamespaceConfig) :
    Action (Session Machine) (Option SignalSet) := do
  if config.blockSignals then
    let saved := (← get).host.blocked
    modify fun s => { s with host := s.host.blockSignals }
    return some saved
  else return none

/-- Gives back the signals that were saved. -/
def returnSignals (saved : Option SignalSet) :
    Action (Session Machine) Unit :=
  match saved with
  | none => return ()
  | some signals =>
    modify fun s => { s with host := s.host.restoreSignals signals }

/-- Moves the thread into the namespace of a handle. -/
def enter (config : NamespaceConfig) (handle : Handle) :
    Action (Session Machine) SwitchState := do
  let target := handle.name
  match handle.object with
  | none =>
    Action.fail (.namespaceSwitch target "Handle has no namespace descriptor")
  | some object =>
    match (← get).host.openFile config.selfPath with
    | .error fault =>
      let shown := Text.decodeLossy config.selfPath
      Action.fail <| .namespaceSwitch target
        s!"Cannot open current namespace {shown}: {fault.message}"
    | .ok previous =>
      let saved ← saveSignals config
      match (← get).host.switchTo object with
      | .error e =>
        returnSignals saved
        Action.fail (.namespaceSwitch target e.symbolicMessage)
      | .ok host =>
        modify fun s => { s with host }
        Session.note (.threadEntered target)
        return ⟨target, some previous, saved⟩

/-- Moves the thread back to where it was. -/
def leave (state : SwitchState) : Action (Session Machine) Unit := do
  match state.previous with
  | none =>
    Action.fail <| .namespaceSwitch state.target
      "No saved namespace to return to"
  | some previous =>
    match (← get).host.switchTo previous with
    | .error e =>
      Action.fail (.namespaceSwitch state.target e.symbolicMessage)
    | .ok host =>
      modify fun s => { s with host }
      returnSignals state.signals
      Session.note (.threadReturned state.target)

def provider (config : NamespaceConfig) : NamespaceProvider Machine :=
  ⟨openHandle config, enter config, leave⟩

/-- The names in the directory of named namespaces, sorted.  A directory
that does not exist holds none. -/
def namespaces (config : NamespaceConfig) (m : Machine) :
    Except Error (List String) :=
  match m.readDirectory config.runDir with
  | .ok names =>
    .ok ((names.map Text.decodeLossy).mergeSort fun a b => decide (a ≤ b))
  | .error (.os .noEntry) => .ok []
  | .error fault => .error (.io fault.cause)

def namespaceExists (config : NamespaceConfig) (m : Machine) (name : String) :
    Bool :=
  (config.namespacePath? name).any m.fileExists

end InterfaceManager.Machine

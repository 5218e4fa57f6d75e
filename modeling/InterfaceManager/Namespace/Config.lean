import InterfaceManager.Json.Decode
import InterfaceManager.Path

/-!
# Configuration of the namespaces of the system

Where named namespaces are found, which file leads to the namespace of the
thread, and whether signals are blocked during a switch.
-/

namespace InterfaceManager

open Text (Octets)

/-- The configuration of the namespaces of the system. -/
structure NamespaceConfig where
  /-- The directory that holds named namespaces. -/
  runDir : Octets
  /-- The file of the current namespace of the thread. -/
  selfPath : Octets
  /-- Whether all signals are blocked inside another namespace. -/
  blockSignals : Bool
  deriving DecidableEq, Repr

namespace NamespaceConfig

/-- The configuration used unless another one is given. -/
def preset : NamespaceConfig where
  runDir := Text.octets "/var/run/netns"
  selfPath := Text.octets "/proc/thread-self/ns/net"
  blockSignals := true

instance : Inhabited NamespaceConfig := ⟨preset⟩

/-- Whether two configurations say the same; paths are compared by their
components. -/
def agree (c d : NamespaceConfig) : Bool :=
  Path.components c.runDir == Path.components d.runDir
    && Path.components c.selfPath == Path.components d.selfPath
    && c.blockSignals == d.blockSignals

/-- The path of the file behind a namespace name.  An absolute path stands
for itself, and any other name for an entry of the directory; a name that
could leave the directory has no path. -/
def namespacePath? (c : NamespaceConfig) (name : String) : Option Octets :=
  let octets := Text.octets name
  if Path.isAbsolute octets then some octets
  else if name = "" ∨ name = "." ∨ name = ".." ∨ '/' ∈ name.toList then none
  else some (Path.join c.runDir octets)

def shape : Json.RecordShape :=
  ⟨"struct NetnsConfig", ["run_dir", "self_netns_path", "block_signals"]⟩

/-- What is said about a path that has no JSON form. -/
def noTextMessage : String := "path contains invalid UTF-8 characters"

/-- The JSON form, which only paths that are texts have. -/
def toJson? (c : NamespaceConfig) : Option Json := do
  let runDir ← Text.decode? c.runDir
  let selfPath ← Text.decode? c.selfPath
  return .object
    [("run_dir", .string runDir), ("self_netns_path", .string selfPath),
      ("block_signals", .bool c.blockSignals)]

/-- The configuration with a given JSON form.  Fields that are absent have
their preset values. -/
def ofJson (v : Json) : Except Json.Misfit NamespaceConfig := do
  let fields ← Json.recordFields shape v
  fields.check
    [("run_dir", Json.fits Json.asPath),
      ("self_netns_path", Json.fits Json.asPath),
      ("block_signals", Json.fits Json.asFlag)]
  let runDir ← fields.optional shape "run_dir" preset.runDir Json.asPath
  let selfPath ←
    fields.optional shape "self_netns_path" preset.selfPath Json.asPath
  let blockSignals ←
    fields.optional shape "block_signals" preset.blockSignals Json.asFlag
  fields.refuseSurplus shape
  return { runDir, selfPath, blockSignals }

inductive Setting where
  | runDir (path : Octets)
  | selfPath (path : Octets)
  | blockSignals (enable : Bool)
  deriving DecidableEq, Repr

/-- The configuration with one setting changed. -/
def apply (c : NamespaceConfig) : Setting → NamespaceConfig
  | .runDir path => { c with runDir := path }
  | .selfPath path => { c with selfPath := path }
  | .blockSignals enable => { c with blockSignals := enable }

end NamespaceConfig

end InterfaceManager

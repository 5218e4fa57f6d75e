import InterfaceManager.CommandLine.Command
import InterfaceManager.CommandLine.LogFilter
import InterfaceManager.Device.Observation
import InterfaceManager.Json.Writer
import InterfaceManager.System.Backend

/-!
# Running of commands

A command works on a machine and writes lines to its standard output as it
goes.  Most commands register one device for the interface that was
selected, do something with it and free it.  A command that fails complains
about what was attempted and why.
-/

namespace InterfaceManager.CommandLine

/-- Why a command failed: what was attempted, the failure, and the causes
behind it. -/
abbrev Complaint := List String

abbrev Lines := List String

/-- What a command works on, and what it has written so far. -/
structure Desk (σ : Type) where
  work : σ
  written : Lines

/-- A part of a command, which may end with a complaint. -/
abbrev Task (σ α : Type) := ExceptT Complaint (Action (Desk σ)) α

namespace Task

/-- Runs an action that cannot fail. -/
def simply (act : Action σ α) : Task σ α :=
  ExceptT.lift <|
    Action.focus Desk.work (fun work desk => { desk with work }) act

/-- The value of an action, or the complaint about the error it ended with
during `attempt`. -/
def orComplain (attempt : List String) : Except Error α → Task σ α
  | .ok value => return value
  | .error e => throw (attempt ++ e.message :: e.causes)

/-- Runs an action that is called `attempt` in complaints. -/
def attempting (attempt : String) (act : Action σ α) : Task σ α := do
  orComplain [attempt] (← simply (Action.tried act))

/-- Runs an action whose failure speaks for itself. -/
def plainly (act : Action σ α) : Task σ α := do
  orComplain [] (← simply (Action.tried act))

def write (lines : Lines) : Task σ Unit :=
  ExceptT.lift <| modify fun desk =>
    { desk with written := desk.written ++ lines }

end Task

/-- The device of a command, at work. -/
abbrev Station := DeviceState Machine Machine.Change

/-- A line that separates parts of an output. -/
def ruler : String := String.ofList (List.replicate 60 '-')

namespace Selection

def deviceName (s : Selection) : String :=
  match s.netns with
  | some netns => s!"{netns}/{s.ifindex}"
  | none => toString s.ifindex

/-- The namespace of an interface in complaints. -/
def place (s : Selection) : String :=
  match s.netns with
  | some netns =>
    if netns = "" then "the current netns" else s!"netns '{netns}'"
  | none => "the current netns"

end Selection

/-- Registers the device for the selected interface. -/
def openDevice (config : NamespaceConfig) (selection : Selection) :
    Task Station Unit := do
  Task.plainly (DeviceState.setIfindex selection.ifindex)
  Task.plainly (DeviceState.setNetns selection.netns)
  Task.attempting
    s!"Failed to register interface {selection.ifindex} in {selection.place}"
    (DeviceState.register (Machine.backend config))

/-- Runs `task` with a device registered for the selected interface, which
is freed at the end. -/
def withDevice (config : NamespaceConfig) (selection : Selection)
    (task : Task Station Unit) : Task (Manager Machine) Unit := do
  let device : Device Machine.Change ←
    Task.simply (Manager.allocate selection.deviceName)
  ExceptT.mk <| Action.focus
    (fun desk => (⟨⟨desk.work, device, []⟩, desk.written⟩ : Desk Station))
    (fun desk _ => ⟨desk.work.manager, desk.written⟩) <|
    ExceptT.run do
      let result ← ExceptT.lift <| ExceptT.run do
        openDevice config selection
        task
      Task.simply DeviceState.free
      MonadExcept.ofExcept result

def devName : Task Station String :=
  Task.simply do return (← DeviceState.getDevice).devName.getD ""

structure InterfaceReport where
  ifindex : IfIndex
  netns : String
  devName : String
  up : Option Bool
  mtu : Option UInt32

namespace InterfaceReport

def ofDevice (d : Device ε) : InterfaceReport :=
  ⟨d.ifindex, d.netnsKey, d.devName.getD "", d.up, d.mtu⟩

def toJson (r : InterfaceReport) : Json :=
  .object
    [("ifindex", .nat r.ifindex.raw.toNat), ("netns", .string r.netns),
      ("dev_name", .string r.devName),
      ("up", match r.up with
        | some up => .bool up
        | none => .null),
      ("mtu", match r.mtu with
        | some mtu => .nat mtu.toNat
        | none => .null)]

def lines (r : InterfaceReport) : Lines :=
  let netns := if r.netns = "" then "(current)" else r.netns
  let state :=
    match r.up with
    | some true => "UP"
    | some false => "DOWN"
    | none => "UNKNOWN"
  let mtu :=
    match r.mtu with
    | some mtu => toString mtu
    | none => "unknown"
  ["", s!"🔌 Interface {r.ifindex} ({r.devName})", ruler,
    s!"Namespace:  {netns}", s!"State:      {state}", s!"MTU:        {mtu}",
    ruler]

end InterfaceReport

def refresh (config : NamespaceConfig) : Task Station Unit :=
  Task.attempting "Failed to read link state"
    (DeviceState.refresh (Machine.backend config))

def showInterface (config : NamespaceConfig) (json : Bool) :
    Task Station Unit := do
  refresh config
  let report := InterfaceReport.ofDevice (← Task.simply DeviceState.getDevice)
  Task.write (if json then [report.toJson.pretty 0] else report.lines)

def bringInterface (config : NamespaceConfig) (up : Bool) :
    Task Station Unit := do
  let state := if up then "up" else "down"
  let name ← devName
  let device ← Task.simply DeviceState.getDevice
  Task.attempting s!"Failed to bring {name} {state}"
    (DeviceState.onManager (device.bringUpDown (Machine.backend config) up))
  Task.write [s!"✅ {name} is {state}"]

def addAddress (config : NamespaceConfig) (address : Cidr) :
    Task Station Unit := do
  let name ← devName
  let device ← Task.simply DeviceState.getDevice
  Task.attempting s!"Failed to add address {address} to {name}" <|
    DeviceState.onManager <|
      device.addAddress (Machine.backend config) address.address
        address.length.toUInt8
  Task.write [s!"✅ Added {address} to {name}"]

/-- Adds a route through an interface. -/
def addRoute (config : NamespaceConfig) (destination : Cidr)
    (via : Option Address) : Task Station Unit := do
  let name ← devName
  let device ← Task.simply DeviceState.getDevice
  Task.attempting s!"Failed to add route {destination} dev {name}" <|
    DeviceState.onManager <|
      device.addRoute (Machine.backend config) destination.address
        destination.length.toUInt8 via
  match via with
  | some gateway =>
    Task.write [s!"✅ Added route {destination} via {gateway} dev {name}"]
  | none => Task.write [s!"✅ Added route {destination} dev {name}"]

/-- The line about an observation on an interface called `name`. -/
def observationLine (name : String) : Observation → String
  | .upDown true => s!"{name}: UP"
  | .upDown false => s!"{name}: DOWN"
  | .devName newName => s!"{name}: renamed to {newName}"
  | .mtu mtu => s!"{name}: mtu {mtu}"

/-- The line about what a callback reports. -/
def reportLine? : Report ε → Option String
  | .called observation device =>
    some (observationLine (device.devName.getD "") observation)
  | _ => none

/-- Writes what the callbacks have reported since this was last done. -/
def writeReports : Task Station Unit := do
  let reports ← Task.simply <| modifyGet fun station =>
    (station.reports, { station with reports := [] })
  Task.write (reports.filterMap reportLine?)

/-- Polls an interface a number of times. -/
def poll (config : NamespaceConfig) : Nat → Task Station Unit
  | 0 => return ()
  | n + 1 => do
    let result ← ExceptT.lift (ExceptT.run (refresh config))
    writeReports
    MonadExcept.ofExcept result
    poll config n

/-- Watches an interface.  Without a count the watch is interrupted after
the first poll; a count of zero still polls once. -/
def watchInterface (config : NamespaceConfig) (interval : Nat)
    (count : Option Nat) : Task Station Unit := do
  Task.simply <| DeviceState.changeDevice fun device =>
    { device with onUpDown := some [], onDevName := some [], onMtu := some [] }
  let name ← devName
  Task.simply (DeviceState.note (.watching name interval))
  let polls := max 1 (count.getD 1)
  poll config polls
  Task.simply <| DeviceState.note <|
    match count with
    | some _ => .pollLimitReached polls
    | none => .interrupted
  Task.plainly DeviceState.unregister

def listNamespaces (config : NamespaceConfig) :
    Task (Manager Machine) Unit := do
  let manager ← Task.simply get
  let names ← Task.orComplain ["Failed to list network namespaces"]
    (Machine.namespaces config manager.session.host)
  let place := Text.decodeLossy config.runDir
  Task.write ["", s!"🔒 Network namespaces in {place}", ruler]
  Task.write <|
    if names = [] then ["No network namespaces found"]
    else names.map fun name => s!"  {name}"

/-- What is written about the version. -/
def versionLines : Lines :=
  ["🦀 netdev - namespace-aware interface manager",
    s!"Version: {programVersion}", "Edition: Rust 2024", "", "Features:",
    "  • Shared, refcounted namespace contexts",
    "  • Scoped namespace switching", "  • Link state polling"]

def runCommand (config : NamespaceConfig) :
    Command → Task (Manager Machine) Unit
  | .show selection json =>
    withDevice config selection (showInterface config json)
  | .bring selection up =>
    withDevice config selection (bringInterface config up)
  | .addAddress selection address =>
    withDevice config selection (addAddress config address)
  | .addRoute selection destination via =>
    withDevice config selection (addRoute config destination via)
  | .watch selection interval count =>
    if interval = 0 then
      throw ["Interval must be at least 1 second"]
    else withDevice config selection (watchInterface config interval count)
  | .namespaces => listNamespaces config
  | .version => Task.write versionLines

/-- What a run of the program leaves behind. -/
structure Ending where
  /-- The exit code. -/
  code : Nat
  /-- What was written to the standard output. -/
  output : Lines
  /-- What was written to the standard error, without log lines. -/
  errors : Lines
  /-- What was logged. -/
  logged : List Entry

def explanation (path : List String) (command : CommandSpec) : Lines :=
  [command.about, "", "Usage: " ++ " ".intercalate path ++ " [OPTIONS]"]
    ++ command.subcommands.map fun sub => s!"  {sub.name}  {sub.about}"

/-- How a run ends that did not get as far as a command. -/
def Stop.ending : Stop → Ending
  | .version => ⟨0, [s!"{programName} {programVersion}"], [], []⟩
  | .help path command => ⟨0, explanation path command, [], []⟩
  | .nothing path command => ⟨2, [], explanation path command, []⟩
  | .misuse m => ⟨2, [], [m.complaint], []⟩

def complaintLine (complaint : Complaint) : String :=
  "❌ Error: " ++ ": ".intercalate complaint

/-- The configuration that an invocation asks for. -/
def Invocation.config (i : Invocation) : NamespaceConfig :=
  match i.directory with
  | some dir => { NamespaceConfig.preset with runDir := Text.octets dir }
  | none => .preset

/-- Runs an invocation on a machine, with the log filter that the
environment asks for. -/
def Invocation.run (i : Invocation) (asked : Option String) (m : Machine) :
    Ending :=
  let task := runCommand i.config i.command
  let (outcome, desk) := Action.outcome task.run ⟨Manager.start m, []⟩
  let filter := LogFilter.choose asked i.verbose
  let logged :=
    desk.work.session.journal.entries.toList.filter filter.admits
  match outcome with
  | .ok (.ok ()) => ⟨0, desk.written, [], logged⟩
  | .ok (.error complaint) =>
    ⟨1, desk.written, [complaintLine complaint], logged⟩
  | .error (.error e) => ⟨1, desk.written, [complaintLine [e.message]], logged⟩
  | .error (.panic message) => ⟨101, desk.written, [message], logged⟩

def run (m : Machine) (asked : Option String) (words : List String) :
    Ending :=
  match parse words with
  | .error stop => stop.ending
  | .ok invocation => invocation.run asked m

end InterfaceManager.CommandLine

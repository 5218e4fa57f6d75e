import InterfaceManager.Cidr
import InterfaceManager.IfIndex

/-!
# The grammar of the command line

Commands with their options, their positional arguments and their
subcommands, and the forms that values are written in.
-/

namespace InterfaceManager.CommandLine

inductive Role where
  | help
  | version
  | verbose
  /-- The directory of named namespaces. -/
  | directory
  | ifindex
  | netns
  | json
  /-- An address with a prefix length. -/
  | target
  | via
  | interval
  | count
  deriving DecidableEq, Repr

/-- A value that has been read; a flag has none. -/
inductive Value where
  | flag
  | index (i : IfIndex)
  | text (s : String)
  | number (n : UInt64)
  | cidr (c : Cidr)
  | address (a : Address)
  deriving DecidableEq, Repr

/-- The forms that values are written in. -/
inductive Form where
  | index
  | text
  | path
  | number
  | cidr
  | address
  deriving DecidableEq, Repr

/-- An argument that takes a value. -/
structure Argument where
  role : Role
  /-- How messages call the argument. -/
  title : String
  form : Form
  deriving DecidableEq, Repr

/-- An option; without a form of values it is a flag. -/
structure OptionSpec where
  role : Role
  long : String
  short : Option Char
  /-- The placeholder and the form of the value. -/
  value : Option (String × Form)
  deriving DecidableEq, Repr

namespace OptionSpec

/-- How messages call an option. -/
def title (o : OptionSpec) : String :=
  match o.value with
  | none => s!"--{o.long}"
  | some (placeholder, _) => s!"--{o.long} <{placeholder}>"

def argument? (o : OptionSpec) : Option Argument :=
  o.value.map fun (_, form) => ⟨o.role, o.title, form⟩

end OptionSpec

structure CommandSpec where
  name : String
  about : String
  options : List OptionSpec
  positional : Option Argument
  /-- The arguments that have to be given. -/
  required : List Role
  subcommands : List CommandSpec

namespace CommandSpec

/-- The name of the subcommand that explains the others. -/
def helpName : String := "help"

def subcommand? (c : CommandSpec) (name : String) : Option CommandSpec :=
  c.subcommands.find? fun sub => sub.name == name

def hasSubcommand (c : CommandSpec) (name : String) : Bool :=
  c.subcommands ≠ [] && (name == helpName || (c.subcommand? name).isSome)

def long? (c : CommandSpec) (name : String) : Option OptionSpec :=
  c.options.find? fun o => o.long == name

def short? (c : CommandSpec) (name : Char) : Option OptionSpec :=
  c.options.find? fun o => o.short == some name

end CommandSpec

/-- The options of every command. -/
def commonOptions : List OptionSpec :=
  [⟨.verbose, "verbose", some 'v', none⟩,
    ⟨.directory, "netns-dir", none, some ("DIR", .path)⟩,
    ⟨.help, "help", some 'h', none⟩]

/-- The options that select an interface. -/
def selectionOptions : List OptionSpec :=
  [⟨.ifindex, "ifindex", some 'i', some ("IFINDEX", .index)⟩,
    ⟨.netns, "netns", some 'n', some ("NETNS", .text)⟩]

def interfaceCommand (name about : String) (options : List OptionSpec) :
    CommandSpec :=
  ⟨name, about, selectionOptions ++ options ++ commonOptions, none,
    [.ifindex], []⟩

/-- A command on one interface with an address argument called
`placeholder`. -/
def addressCommand (name about placeholder : String)
    (options : List OptionSpec) : CommandSpec :=
  ⟨name, about, selectionOptions ++ options ++ commonOptions,
    some ⟨.target, s!"<{placeholder}>", .cidr⟩, [.ifindex, .target], []⟩

/-- A command without arguments of its own. -/
def plainCommand (name about : String) : CommandSpec :=
  ⟨name, about, commonOptions, none, [], []⟩

/-- A command that only groups others. -/
def groupCommand (name about : String) (subcommands : List CommandSpec) :
    CommandSpec :=
  ⟨name, about, commonOptions, none, [], subcommands⟩

def programName : String := "netdev"

def programVersion : String := "0.1.0"

def program : CommandSpec where
  name := programName
  about := "Namespace-aware network interface manager"
  options :=
    commonOptions ++ [⟨.version, "version", some 'V', none⟩]
  positional := none
  required := []
  subcommands :=
    [interfaceCommand "show" "Show interface name and state"
        [⟨.json, "json", none, none⟩],
      interfaceCommand "up" "Bring an interface up" [],
      interfaceCommand "down" "Bring an interface down" [],
      groupCommand "addr" "Manage interface addresses"
        [addressCommand "add" "Add an address, e.g. 10.45.0.1/16" "PREFIX" []],
      groupCommand "route" "Manage routes through an interface"
        [addressCommand "add" "Add a route, e.g. 0.0.0.0/0 --via 10.45.0.254"
          "DESTINATION" [⟨.via, "via", none, some ("VIA", .address)⟩]],
      interfaceCommand "watch" "Poll an interface and report changes"
        [⟨.interval, "interval", none, some ("INTERVAL", .number)⟩,
          ⟨.count, "count", none, some ("COUNT", .number)⟩],
      plainCommand "namespaces" "List named network namespaces",
      plainCommand "version" "Show version information"]

end InterfaceManager.CommandLine

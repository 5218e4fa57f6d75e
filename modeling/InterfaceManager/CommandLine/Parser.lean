import InterfaceManager.CommandLine.Grammar
import InterfaceManager.Text.ControlSequence
import InterfaceManager.Text.Digits

/-!
# Reading of command lines

The words of a command line are read one after another.  An option takes
its value from the same word or from the next one, and the value is read
only when the next argument of the command or the end is reached.  A
subcommand reads all words after its name, and is checked before the
command that it belongs to.

What is wrong with a command line is written to a terminal, so words are
quoted without their control sequences.
-/

namespace InterfaceManager.CommandLine

/-- What is wrong with a command line. -/
structure Misuse where
  message : String
  /-- What a reader says about a value, in its own words. -/
  reason : Option String
  deriving DecidableEq, Repr

/-- Why a command line is not a command to be run. -/
inductive Stop where
  /-- The version is asked for. -/
  | version
  /-- An explanation of a command is asked for; the names lead to it. -/
  | help (path : List String) (command : CommandSpec)
  /-- Nothing was given to a command that needs a subcommand. -/
  | nothing (path : List String) (command : CommandSpec)
  /-- The words are no command. -/
  | misuse (m : Misuse)

/-- The advice at the end of a complaint about a command line, up to the
option that it names. -/
def advice : String := "\n\nFor more information, try '"

def Misuse.complaint (m : Misuse) : String :=
  let reason :=
    match m.reason with
    | none => ""
    | some reason => s!": {reason}"
  s!"error: {m.message}" ++ Text.withoutControls (reason ++ advice)
    ++ "--help'."

/-- An argument has no value. -/
def valueMissing (title : String) : Misuse :=
  ⟨s!"a value is required for '{title}' but none was supplied", none⟩

/-- A value cannot be read. -/
def valueInvalid (title text reason : String) : Misuse :=
  ⟨s!"invalid value '{Text.withoutControls text}' for '{title}'", reason⟩

def repeated (title : String) : Misuse :=
  ⟨s!"the argument '{title}' cannot be used multiple times", none⟩

/-- A value is given to a flag. -/
def valueUnneeded (title text : String) : Misuse :=
  let value := Text.withoutControls text
  ⟨s!"unexpected value '{value}' for '{title}' found; no more were expected",
    none⟩

def unexpected (word : String) : Misuse :=
  ⟨s!"unexpected argument '{Text.withoutControls word}' found", none⟩

def unrecognized (word : String) : Misuse :=
  ⟨s!"unrecognized subcommand '{Text.withoutControls word}'", none⟩

def requiredMissing : Misuse :=
  ⟨"the following required arguments were not provided:", none⟩

def subcommandMissing (path : List String) : Misuse :=
  ⟨"'" ++ " ".intercalate path
    ++ "' requires a subcommand but one was not provided", none⟩

/-- Reads a value.  An index is read as an integer of 64 bits first. -/
def Argument.read (a : Argument) (text : String) : Except Misuse Value :=
  let cs := text.toList
  match a.form with
  | .text => .ok (.text text)
  | .path =>
    if text = "" then .error (valueMissing a.title) else .ok (.text text)
  | .index =>
    match Text.boundedInt Int64.maxValue.toNatClampNeg cs with
    | .error fault => .error (valueInvalid a.title text fault.message)
    | .ok n =>
      if 0 ≤ n ∧ n < UInt32.size then .ok (.index ⟨n.toNat.toUInt32⟩)
      else
        .error (valueInvalid a.title text s!"{n} is not in 0..=4294967295")
  | .number =>
    match Text.boundedNat (UInt64.size - 1) cs with
    | .error fault => .error (valueInvalid a.title text fault.message)
    | .ok n => .ok (.number n.toUInt64)
  | .cidr =>
    match Cidr.read cs with
    | .error e => .error (valueInvalid a.title text e.message)
    | .ok c => .ok (.cidr c)
  | .address =>
    match Address.parse? cs with
    | none => .error (valueInvalid a.title text Address.syntaxMessage)
    | some address => .ok (.address address)

/-- The values given to the arguments of a command. -/
abbrev Given := List (Role × Value)

def Given.value? (given : Given) (role : Role) : Option Value :=
  (List.find? (fun entry => entry.1 == role) given).map Prod.snd

/-- How far the words of a command have been read. -/
structure Progress where
  given : Given
  /-- The argument found last, with its value if that has been found. -/
  pending : Option (Argument × Option String)
  /-- Whether the positional argument has been found. -/
  positioned : Bool
  /-- Whether only positional arguments may follow. -/
  trailing : Bool

namespace Progress

/-- Nothing has been read. -/
def start : Progress := ⟨[], none, false, false⟩

/-- Whether the next word may be the value of an option. -/
def isAwaiting (p : Progress) : Bool :=
  match p.pending with
  | some (_, none) => true
  | _ => false

/-- Gives a value to an argument that has none yet. -/
def accept (p : Progress) (a : Argument) (text : Option String) :
    Except Stop Progress :=
  match text with
  | none => .error (.misuse (valueMissing a.title))
  | some text =>
    if (p.given.value? a.role).isSome then
      .error (.misuse (repeated a.title))
    else
      match a.read text with
      | .error misuse => .error (.misuse misuse)
      | .ok value => .ok { p with given := p.given ++ [(a.role, value)] }

/-- Reads the value of the argument found last. -/
def resolve (p : Progress) : Except Stop Progress :=
  match p.pending with
  | none => .ok p
  | some (a, text) => accept { p with pending := none } a text

/-- Waits for the value of an argument. -/
def await (p : Progress) (a : Argument) (text : Option String) :
    Except Stop Progress := do
  let p ← p.resolve
  return { p with pending := some (a, text) }

end Progress

/-- A command under way, with the names that lead to it. -/
structure Reading where
  path : List String
  command : CommandSpec

namespace Reading

def takeFlag (r : Reading) (p : Progress) (o : OptionSpec)
    (attached : Option String) : Except Stop Progress :=
  match attached with
  | some text => .error (.misuse (valueUnneeded o.title text))
  | none => do
    let p ← p.resolve
    match o.role with
    | .help => .error (.help r.path r.command)
    | .version => .error .version
    | role =>
      if (p.given.value? role).isSome then
        .error (.misuse (repeated o.title))
      else return { p with given := p.given ++ [(role, .flag)] }

/-- Takes an option, with a value attached to it or not. -/
def takeOption (r : Reading) (p : Progress) (o : OptionSpec)
    (attached : Option String) : Except Stop Progress :=
  match o.argument? with
  | none => r.takeFlag p o attached
  | some a =>
    match attached with
    | some text => do (← p.resolve).accept a (some text)
    | none => p.await a none

/-- The value that is attached to a short name by the rest of its word. -/
def attachedValue : List Char → Option String
  | [] => none
  | '=' :: cs => some (String.ofList cs)
  | cs => some (String.ofList cs)

/-- Takes short names written together; the first one that takes a value
takes the rest of the word. -/
def takeShort (r : Reading) (p : Progress) : List Char → Except Stop Progress
  | [] => .ok p
  | c :: cs =>
    match r.command.short? c with
    | none => .error (.misuse (unexpected (String.ofList ['-', c])))
    | some o =>
      match o.argument? with
      | some _ => r.takeOption p o (attachedValue cs)
      | none => do r.takeShort (← r.takeFlag p o none) cs

/-- Takes a long name, with a value after an equals sign or without. -/
def takeLong (r : Reading) (p : Progress) (word : List Char) :
    Except Stop Progress :=
  let (name, attached) :=
    match Text.cutFirst? '=' word with
    | some (name, text) => (String.ofList name, some (String.ofList text))
    | none => (String.ofList word, none)
  match r.command.long? name with
  | none => .error (.misuse (unexpected s!"--{name}"))
  | some o => r.takeOption p o attached

/-- Takes a word that is no option. -/
def takeWord (r : Reading) (p : Progress) (word : String) :
    Except Stop Progress :=
  match r.command.positional, p.positioned with
  | some a, false => do
    return { ← p.await a (some word) with positioned := true }
  | _, _ =>
    if r.command.subcommands = [] ∨ (p.trailing ∧ r.command.hasSubcommand word)
    then .error (.misuse (unexpected word))
    else .error (.misuse (unrecognized word))

/-- Takes a word that is not the name of a subcommand. -/
def takeArgument (r : Reading) (p : Progress) (word : String) :
    Except Stop Progress :=
  if p.trailing then r.takeWord p word
  else
    match word.toList with
    | ['-', '-'] => .ok { p with trailing := true }
    | '-' :: '-' :: cs => r.takeLong p cs
    | '-' :: c :: cs => r.takeShort p (c :: cs)
    | _ =>
      match p.pending with
      | some (a, none) => .ok { p with pending := some (a, some word) }
      | _ => r.takeWord p word

/-- Whether a word is read as the name of a subcommand. -/
def isSubcommand (r : Reading) (p : Progress) (word : String) : Bool :=
  !p.trailing && !p.isAwaiting && r.command.hasSubcommand word

def enter (r : Reading) (command : CommandSpec) : Reading :=
  ⟨r.path ++ [command.name], command⟩

/-- What is explained when the subcommands named by `words` are asked
about; the subcommand that explains has none of its own. -/
def explain (r : Reading) : List String → Stop
  | [] => .help r.path r.command
  | word :: words =>
    match r.command.subcommand? word with
    | some command => (r.enter command).explain words
    | none =>
      if r.command.hasSubcommand word then
        match words with
        | [] => .help (r.path ++ [word]) r.command
        | other :: _ => .misuse (unrecognized other)
      else .misuse (unrecognized word)

end Reading

/-- The values given to one of the commands that were named. -/
structure Layer where
  name : String
  given : Given

/-- Checks what was given to a command, once its subcommand has been
read. -/
def Reading.finish (r : Reading) (p : Progress) (inner : List Layer) :
    Except Stop (List Layer) := do
  let p ← p.resolve
  if inner.isEmpty ∧ ¬ r.command.subcommands.isEmpty then
    if p.given = [] then .error (.nothing r.path r.command)
    else .error (.misuse (subcommandMissing r.path))
  else if r.command.required.any fun role => (p.given.value? role).isNone then
    .error (.misuse requiredMissing)
  else return ⟨r.command.name, p.given⟩ :: inner

/-- Reads the words of a command.  Gives the commands that were named,
outermost first. -/
def Reading.readWords (r : Reading) (p : Progress) :
    List String → Except Stop (List Layer)
  | [] => r.finish p []
  | word :: words =>
    if r.isSubcommand p word then
      match r.command.subcommand? word with
      | some command => do
        r.finish p (← (r.enter command).readWords .start words)
      | none => .error (r.explain words)
    else do
      readWords r (← r.takeArgument p word) words

def readLine (words : List String) : Except Stop (List Layer) :=
  (⟨[program.name], program⟩ : Reading).readWords .start words

end InterfaceManager.CommandLine

import InterfaceManager.CommandLine.Parser

/-!
# Commands

What a command line asks for, once all of its values have been read.
-/

namespace InterfaceManager.CommandLine

/-- The interface that a command is about. -/
structure Selection where
  ifindex : IfIndex
  netns : Option String
  deriving DecidableEq, Repr

inductive Command where
  | show (selection : Selection) (json : Bool)
  | bring (selection : Selection) (up : Bool)
  | addAddress (selection : Selection) (address : Cidr)
  | addRoute (selection : Selection) (destination : Cidr)
      (via : Option Address)
  /-- Polls every `interval` seconds, `count` times or without an end. -/
  | watch (selection : Selection) (interval : Nat) (count : Option Nat)
  | namespaces
  | version
  deriving DecidableEq, Repr

/-- A command with the options of the whole program. -/
structure Invocation where
  verbose : Bool
  /-- The directory of named namespaces. -/
  directory : Option String
  command : Command
  deriving DecidableEq, Repr

namespace Given

def flag (given : Given) (role : Role) : Bool := (given.value? role).isSome

def text? (given : Given) (role : Role) : Option String :=
  match given.value? role with
  | some (.text s) => some s
  | _ => none

def number? (given : Given) (role : Role) : Option Nat :=
  match given.value? role with
  | some (.number n) => some n.toNat
  | _ => none

def address? (given : Given) (role : Role) : Option Address :=
  match given.value? role with
  | some (.address a) => some a
  | _ => none

/-- The address with a prefix length given for a role. -/
def cidr? (given : Given) (role : Role) : Option Cidr :=
  match given.value? role with
  | some (.cidr c) => some c
  | _ => none

def selection? (given : Given) : Option Selection :=
  match given.value? .ifindex with
  | some (.index i) => some ⟨i, given.text? .netns⟩
  | _ => none

end Given

/-- The seconds between polls unless others are given. -/
def presetInterval : Nat := 1

/-- The command with the given names below the program, and with the values
given to the last of them. -/
def Command.ofNames? (names : List String) (given : Given) : Option Command :=
  match names with
  | ["show"] => do some (.show (← given.selection?) (given.flag .json))
  | ["up"] => do some (.bring (← given.selection?) true)
  | ["down"] => do some (.bring (← given.selection?) false)
  | ["addr", "add"] => do
    some (.addAddress (← given.selection?) (← given.cidr? .target))
  | ["route", "add"] => do
    some
      (.addRoute (← given.selection?) (← given.cidr? .target)
        (given.address? .via))
  | ["watch"] => do
    some
      (.watch (← given.selection?)
        ((given.number? .interval).getD presetInterval)
        (given.number? .count))
  | ["namespaces"] => some .namespaces
  | ["version"] => some .version
  | _ => none

/-- The invocation that the named commands stand for.  The directory given
last, innermost, is the one that counts. -/
def Invocation.ofLayers? (layers : List Layer) : Option Invocation := do
  let inner ← layers.getLast?
  let command ←
    Command.ofNames? ((layers.drop 1).map Layer.name) inner.given
  some {
    verbose := layers.any fun layer => layer.given.flag .verbose
    directory := layers.reverse.findSome? fun layer =>
      layer.given.text? .directory
    command }

/-- Reads a command line. -/
def parse (words : List String) : Except Stop Invocation := do
  match Invocation.ofLayers? (← readLine words) with
  | some invocation => .ok invocation
  | none => .error (.nothing [program.name] program)

end InterfaceManager.CommandLine

import InterfaceManager.IfIndex.Codec
import InterfaceManager.System.Machine
import InterfaceManager.Text.Digits

/-!
# Machines described in JSON

A machine is described by its files and its kernel.  A file is an object
with a path and what the file is; a path that is no text is given in
hexadecimal digits.  The kernel lists its interfaces and the errors of its
calls, by their symbolic names.
-/

namespace InterfaceManager.Machine

open Text (Octets)

/-- The octets written by pairs of hexadecimal digits. -/
def octetsOfDigits? : List Char → Option Octets
  | [] => some []
  | [_] => none
  | c :: d :: cs => do
    let high ← Text.digitValue? 16 c
    let low ← Text.digitValue? 16 d
    let rest ← octetsOfDigits? cs
    some ((high * 16 + low).toUInt8 :: rest)

def asOctets : Json.Reading Octets := fun v => do
  match octetsOfDigits? (← Json.asText v).toList with
  | some octets => .ok octets
  | none => .error (.wrongValue v "hexadecimal digits")

/-- Octets given as the text called `key`, or in digits. -/
def octetsMember (key : String) : Json.Reading Octets := fun v => do
  match ← Json.optionalMember (key ++ "_hex") asOctets v with
  | some octets => return octets
  | none => return Text.octets (← Json.requiredMember key Json.asText v)

/-- The mark at the start of the contents of a file that a namespace is
attached to. -/
def namespaceMark : String := "netns:"

/-- What a file with the given text holds. -/
def contentsOfText (contents : String) : FileContents :=
  if namespaceMark.toList.isPrefixOf contents.toList then
    .namespace (String.ofList (contents.toList.drop namespaceMark.length))
  else .plain

def asNewFile : Json.Reading NewFile := fun v => do
  if ← Json.memberOr "dir" false Json.asFlag v then
    return .directory
  match ← Json.optionalMember "link" Json.asText v with
  | some target => return .link (Text.octets target)
  | none =>
    match ← Json.optionalMember "netns" Json.asText v with
    | some netns => return .file (.namespace netns)
    | none =>
      return .file (contentsOfText (← Json.memberOr "text" "" Json.asText v))

def asFile : Json.Reading (Octets × NewFile) := fun v =>
  return (← octetsMember "path" v, ← asNewFile v)

def asErrno : Json.Reading Errno := fun v => do
  match Errno.ofSymbol? (← Json.asText v) with
  | some e => .ok e
  | none => .error (.wrongValue v "the name of an error")

/-- A namespace with the error of entering it. -/
def asSwitchError : Json.Reading (String × Errno)
  | .array [netns, e] => return (← Json.asText netns, ← asErrno e)
  | v => .error (.wrongType v "a name and an error")

def asLink : Json.Reading KernelLink := fun v => do
  let flags ← Json.memberOr "flags" 1
    (Json.asIntWithin Int16.minValue.toInt Int16.maxValue.toInt "i16") v
  let mtu ← Json.memberOr "mtu" 1500
    (Json.asIntWithin Int32.minValue.toInt Int32.maxValue.toInt "i32") v
  return {
    netns := ← Json.requiredMember "netns" Json.asText v
    ifindex := ← Json.requiredMember "ifindex" IfIndex.ofJson v
    name := ← octetsMember "name" v
    flags := Int16.ofInt flags
    mtu := Int32.ofInt mtu }

def asKernel : Json.Reading Kernel := fun v =>
  return {
    links := ← Json.memberOr "links" [] (Json.asList asLink) v
    switchErrors :=
      ← Json.memberOr "setns_errors" [] (Json.asList asSwitchError) v
    socketError := ← Json.optionalMember "socket_error" asErrno v
    flagsError := ← Json.optionalMember "flags_error" asErrno v
    mtuError := ← Json.optionalMember "mtu_error" asErrno v }

/-- A machine with an otherwise empty working directory. -/
def ofJson : Json.Reading Machine := fun v => do
  let files ← Json.memberOr "files" [] (Json.asList asFile) v
  let kernel ← Json.memberOr "kernel" .empty asKernel v
  return .start (createFiles .fresh files) kernel

end InterfaceManager.Machine

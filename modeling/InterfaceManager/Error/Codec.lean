import InterfaceManager.Error
import InterfaceManager.IfIndex.Codec

/-!
# JSON forms of errors

An error is written as an object with its kind and its message, and with
the error that it carries.  It is read from an object with its kind and the
parts that the message is made of.
-/

namespace InterfaceManager.Error

def kind : Error → String
  | io _ => "Io"
  | alreadyRegistered _ => "AlreadyRegistered"
  | alreadyUnregistered _ => "AlreadyUnregistered"
  | notRegistered _ => "NotRegistered"
  | noSuchDevice _ => "NoSuchDevice"
  | namespaceOpen .. => "NamespaceOpen"
  | contextAcquisition .. => "ContextAcquisition"
  | namespaceSwitch .. => "NamespaceSwitch"
  | namespaceRestore .. => "NamespaceRestore"
  | unsupported _ => "Unsupported"
  | linkControl .. => "LinkControl"
  | invalidConfig _ => "InvalidConfig"

def failure (kind message : String) (carried : List (String × Json)) : Json :=
  .object
    ([("error", .string kind), ("message", .string message)] ++ carried)

def toJson : Error → Json
  | contextAcquisition netns source =>
    let e := contextAcquisition netns source
    failure e.kind e.message [("source", toJson source)]
  | namespaceRestore netns message (some primary) =>
    let e := namespaceRestore netns message (some primary)
    failure e.kind e.message [("primary", toJson primary)]
  | e => failure e.kind e.message []

/-- An error number of the operating system. -/
def asErrorNumber : Json.Reading Int :=
  Json.asIntWithin Int32.minValue.toInt Int32.maxValue.toInt "i32"

/-- The cause of an input or output failure. -/
def asIoCause : Json.Reading IoCause := fun v => do
  match ← Json.optionalMember "os" asErrorNumber v with
  | some code => return .os code
  | none => return .other (← Json.requiredMember "message" Json.asText v)

/-- Reads an error.  The errors that it carries are read by `readCarried`. -/
def readWith (readCarried : Json.Reading Error) : Json.Reading Error :=
  fun v => do
    let text (key : String) : Except Json.Misfit String :=
      Json.requiredMember key Json.asText v
    match ← text "kind" with
    | "Io" => return .io (← asIoCause v)
    | "AlreadyRegistered" => return .alreadyRegistered (← text "device")
    | "AlreadyUnregistered" => return .alreadyUnregistered (← text "device")
    | "NotRegistered" => return .notRegistered (← text "device")
    | "NoSuchDevice" =>
      return .noSuchDevice (← Json.requiredMember "ifindex" IfIndex.ofJson v)
    | "NamespaceOpen" =>
      return .namespaceOpen (← text "namespace") (← text "message")
    | "ContextAcquisition" =>
      return .contextAcquisition (← text "namespace")
        (← Json.requiredMember "source" readCarried v)
    | "NamespaceSwitch" =>
      return .namespaceSwitch (← text "namespace") (← text "message")
    | "NamespaceRestore" =>
      return .namespaceRestore (← text "namespace") (← text "message")
        (← Json.optionalMember "primary" readCarried v)
    | "Unsupported" => return .unsupported (← text "operation")
    | "LinkControl" =>
      return .linkControl (← text "operation") (← text "message")
    | "InvalidConfig" => return .invalidConfig (← text "message")
    | _ => .error (.wrongValue v "an error")

/-- Reads an error that is carried through at most the given number of
others. -/
def readNested : Nat → Json.Reading Error
  | 0 => fun v => .error (.wrongValue v "an error that is less deep")
  | depth + 1 => readWith (readNested depth)

/-- The number of errors that can carry one another. -/
def maxDepth : Nat := 1000

/-- The error with a given JSON form. -/
def ofJson : Json.Reading Error := readNested maxDepth

end InterfaceManager.Error

import InterfaceManager.IfIndex
import InterfaceManager.OsError

/-!
# Errors of the library

Every failure of an operation is one of these causes.  Two causes carry
another error: a context that could not be acquired carries its source, and
a failed switch back out of a namespace may carry the failure of the
operation that ran inside, its primary error.
-/

namespace InterfaceManager

/-- What an input or output operation reports. -/
inductive IoCause where
  /-- An error number of the operating system. -/
  | os (code : Int)
  /-- A failure that the operating system was not asked about. -/
  | other (message : String)
  deriving DecidableEq, Repr

/-- The wording of an input or output failure. -/
def IoCause.message : IoCause → String
  | .os code => osErrorMessage code
  | .other message => message

/-- Why an operation failed. -/
inductive Error where
  | io (cause : IoCause)
  | alreadyRegistered (device : String)
  | alreadyUnregistered (device : String)
  | notRegistered (device : String)
  | noSuchDevice (ifindex : IfIndex)
  | namespaceOpen (netns message : String)
  | contextAcquisition (netns : String) (source : Error)
  | namespaceSwitch (netns message : String)
  | namespaceRestore (netns message : String) (primary : Option Error)
  | unsupported (operation : String)
  | linkControl (operation message : String)
  | invalidConfig (message : String)
  deriving Repr, Inhabited

namespace Error

/-- The wording of an error.  The primary error of a failed switch back is
not part of it. -/
def message : Error → String
  | io cause => s!"I/O error: {cause.message}"
  | alreadyRegistered device => s!"Device {device} is already registered"
  | alreadyUnregistered device => s!"Device {device} is already unregistered"
  | notRegistered device => s!"Device {device} is not registered"
  | noSuchDevice ifindex => s!"No such device: ifindex {ifindex}"
  | namespaceOpen netns message => s!"Cannot open namespace '{netns}': {message}"
  | contextAcquisition netns source =>
    s!"Cannot acquire context for namespace '{netns}': {source.message}"
  | namespaceSwitch netns message =>
    s!"Cannot switch to namespace '{netns}': {message}"
  | namespaceRestore netns message _ =>
    s!"Cannot switch back from namespace '{netns}': {message}"
  | unsupported operation => s!"Operation not supported: {operation}"
  | linkControl operation message =>
    s!"Link control error during {operation}: {message}"
  | invalidConfig message => s!"Invalid configuration: {message}"

/-- The wordings of the causes behind an error, outermost first.  A primary
error is not a cause. -/
def causes : Error → List String
  | io cause => [cause.message]
  | contextAcquisition _ source => source.message :: source.causes
  | _ => []

/-- Attaches the failure of the wrapped operation to a failed switch back
that has none yet; any other error stays as it is. -/
def withPrimary (e failure : Error) : Error :=
  match e with
  | namespaceRestore netns message none =>
    namespaceRestore netns message (some failure)
  | e => e

/-- The failure of the operation that ran before a failed switch back. -/
def primary? : Error → Option Error
  | namespaceRestore _ _ primary => primary
  | _ => none

/-- The primary error, its own primary error, and so on. -/
def primaries : Error → List Error
  | namespaceRestore _ _ (some e) => e :: e.primaries
  | _ => []

/-- Whether the thread may have been left in the wrong namespace. -/
def isRestoreFailure : Error → Bool
  | namespaceRestore .. => true
  | _ => false

end Error

end InterfaceManager

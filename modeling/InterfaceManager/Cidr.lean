import InterfaceManager.Address.Parser
import InterfaceManager.Address.Printer
import InterfaceManager.Error

/-!
# Addresses with a prefix length

An address together with the number of its leading bits that name a
network, such as `192.168.200.1/24`.  The length never exceeds the width of
the address.  A text without a length stands for the whole address.
-/

namespace InterfaceManager

/-- An address and a prefix length within its width. -/
structure Cidr where
  address : Address
  length : Nat
  length_le : length ≤ address.width
  deriving DecidableEq, Repr

namespace Cidr

/-- The address with the given prefix length, unless that is too long. -/
def make (address : Address) (length : Nat) : Except Error Cidr :=
  if h : length ≤ address.width then .ok ⟨address, length, h⟩
  else
    .error <| .invalidConfig
      s!"Prefix length {length} too long for {address} (max {address.width})"

/-- The whole address. -/
def host (address : Address) : Cidr := ⟨address, address.width, Nat.le_refl _⟩

/-- The characters of the text: the address, a slash and the length. -/
def render (c : Cidr) : List Char :=
  c.address.render ++ '/' :: Nat.toDigits 10 c.length

instance : ToString Cidr := ⟨fun c => String.ofList c.render⟩

/-- The error for a text that cannot be read, with the reason. -/
def malformed (cs : List Char) (reason : String) : Error :=
  .invalidConfig s!"Invalid prefix '{String.ofList cs}': {reason}"

/-- Reads the characters of a text.  A length is a decimal number of at
most eight bits, and it is looked at only once the address has been read. -/
def read (cs : List Char) : Except Error Cidr :=
  match Text.cutFirst? '/' cs with
  | none =>
    match Address.parse? cs with
    | none => .error (malformed cs Address.syntaxMessage)
    | some address => .ok (host address)
  | some (front, back) =>
    match Address.parse? front with
    | none => .error (malformed cs Address.syntaxMessage)
    | some address =>
      match Text.boundedNat 255 back with
      | .error fault => .error (malformed cs fault.message)
      | .ok length => make address length

def parse (text : String) : Except Error Cidr := read text.toList

end Cidr

end InterfaceManager

import InterfaceManager.IfIndex
import InterfaceManager.Link.State
import InterfaceManager.OsError
import InterfaceManager.Text.Utf8

/-!
# The kernel

The interfaces of all namespaces as the kernel knows them, and the system
calls that the library makes.  Every call can be made to fail.
-/

namespace InterfaceManager

open Text (Octets)

/-- An interface as the kernel knows it. -/
structure KernelLink where
  netns : String
  ifindex : IfIndex
  name : Octets
  /-- The flags; the lowest bit says whether the interface is up. -/
  flags : Int16
  mtu : Int32
  deriving DecidableEq, Repr

/-- The interfaces and the errors of the system calls. -/
structure Kernel where
  links : List KernelLink
  /-- The namespaces that cannot be entered, with the reasons. -/
  switchErrors : List (String × Errno)
  socketError : Option Errno
  flagsError : Option Errno
  mtuError : Option Errno
  deriving DecidableEq, Repr, Inhabited

namespace Kernel

/-- The number of octets for a name with the zero octet at its end. -/
def nameSize : Nat := 16

/-- A kernel without interfaces whose calls do not fail by themselves. -/
def empty : Kernel := ⟨[], [], none, none, none⟩

/-- The namespace that a thread gets into by a descriptor, which leads to a
namespace or to none. -/
def switch (k : Kernel) : Option String → Except Errno String
  | none => .error .invalidArgument
  | some netns =>
    match k.switchErrors.find? fun entry => entry.1 == netns with
    | some (_, e) => .error e
    | none => .ok netns

/-- What calls see of a name: its octets before the first zero octet, cut
off to fit a buffer. -/
def visibleName (name : Octets) : Octets :=
  (name.take (nameSize - 1)).takeWhile fun b => b != 0

/-- The field of a request that tells which interface is meant.  It has room
for a fixed number of octets. -/
structure NameField where
  octets : Vector UInt8 nameSize
  deriving DecidableEq, Repr

/-- The field that a name is copied into over zero octets, as much of it as
there is room for. -/
def NameField.holding (name : Octets) : NameField :=
  ⟨.ofFn fun i => name[i.val]?.getD 0⟩

/-- The name in a field: its octets before the first zero octet. -/
def NameField.name (field : NameField) : Octets :=
  field.octets.toList.takeWhile fun b => b != 0

/-- The name of the interface with an index in a namespace. -/
def nameOf (k : Kernel) (netns : String) (ifindex : IfIndex) :
    Except Errno Octets :=
  match k.links.find? fun l => l.netns == netns && l.ifindex == ifindex with
  | some l => .ok (visibleName l.name)
  | none => .error .noAddress

/-- Creates a socket for queries. -/
def socket (k : Kernel) : Except Errno Unit :=
  match k.socketError with
  | some e => .error e
  | none => .ok ()

/-- The interface in a namespace with the name in a field. -/
def named (k : Kernel) (netns : String) (field : NameField) :
    Except Errno KernelLink :=
  match k.links.find? fun l =>
    l.netns == netns && visibleName l.name == field.name with
  | some l => .ok l
  | none => .error .noDevice

def flagsOf (k : Kernel) (netns : String) (field : NameField) :
    Except Errno Int16 :=
  match k.flagsError with
  | some e => .error e
  | none => (k.named netns field).map KernelLink.flags

def mtuOf (k : Kernel) (netns : String) (field : NameField) :
    Except Errno Int32 :=
  match k.mtuError with
  | some e => .error e
  | none => (k.named netns field).map KernelLink.mtu

end Kernel

/-- The state that flags and an MTU report; an MTU below zero counts as
zero. -/
def LinkState.ofKernel (flags : Int16) (mtu : Int32) : LinkState :=
  ⟨flags &&& 1 != 0, mtu.toInt.toNat.toUInt32⟩

end InterfaceManager

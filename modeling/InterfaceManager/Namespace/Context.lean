import InterfaceManager.Namespace.Handle

/-!
# Namespace contexts

A context stands for one namespace and is shared by everybody who works in
it.  Its identity and its name never change; its handle is closed once, and
stays closed.  The default namespace, whose name is empty, needs no handle.
-/

namespace InterfaceManager

/-- A shared context: its identity and the name of its namespace. -/
structure Context where
  id : Nat
  name : String
  deriving DecidableEq, Repr

/-- Whether a context stands for the default namespace. -/
def Context.isDefault (c : Context) : Bool := c.name == ""

/-- The handles of all contexts ever created, by identity. -/
structure Contexts where
  handles : List (Option Handle)
  deriving Repr, Inhabited

namespace Contexts

/-- No contexts yet. -/
def empty : Contexts := ⟨[]⟩

def handle? (cs : Contexts) (c : Context) : Option Handle :=
  (cs.handles[c.id]?).join

/-- Whether a context can still be used to switch namespaces. -/
def isOpen (cs : Contexts) (c : Context) : Bool :=
  c.isDefault || (cs.handle? c).isSome

/-- Creates a context, with a new identity. -/
def create (cs : Contexts) (name : String) (handle : Option Handle) :
    Context × Contexts :=
  (⟨cs.handles.length, name⟩, ⟨cs.handles ++ [handle]⟩)

/-- Closes the handle of a context. -/
def close (cs : Contexts) (c : Context) : Contexts :=
  ⟨cs.handles.set c.id none⟩

end Contexts

end InterfaceManager

/-!
# Handles and saved switches

An open handle designates a namespace and carries what its file descriptor
leads to, if it has one.  Entering a namespace yields the state that is
needed to come back: where the thread was, and which signals were blocked.
-/

namespace InterfaceManager

/-- What an open file descriptor leads to. -/
inductive FileObject where
  /-- The network namespace called `netns`; the empty name is the default
  namespace. -/
  | namespace (netns : String)
  /-- The file with a number, whatever has become of its name. -/
  | file (number : Nat)
  /-- Anything else. -/
  | other
  deriving DecidableEq, Repr

/-- A set of signals, one bit for each signal number from one. -/
abbrev SignalSet := BitVec 64

namespace SignalSet

/-- Every signal that a thread can block: all but the ninth and the
nineteenth, which kill and stop. -/
def blockable : SignalSet := ~~~((1 : SignalSet) <<< 8 ||| (1 : SignalSet) <<< 18)

end SignalSet

/-- An open handle to a namespace.  Dropping it closes its descriptor. -/
structure Handle where
  /-- The name that the handle was opened for. -/
  name : String
  /-- What the descriptor leads to, for handles that have one. -/
  object : Option FileObject
  deriving DecidableEq, Repr

/-- A handle without a descriptor. -/
def Handle.detached (name : String) : Handle := ⟨name, none⟩

/-- What was captured on entering a namespace. -/
structure SwitchState where
  /-- The namespace that was entered. -/
  target : String
  /-- The namespace the thread was in before. -/
  previous : Option FileObject
  /-- The signals that were blocked before. -/
  signals : Option SignalSet
  deriving DecidableEq, Repr

/-- A switch without anything saved. -/
def SwitchState.detached (target : String) : SwitchState := ⟨target, none, none⟩

end InterfaceManager

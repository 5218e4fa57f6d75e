import InterfaceManager.Namespace.Context
import InterfaceManager.Namespace.Provider
import InterfaceManager.Text.Quoted

/-!
# Pools of namespace contexts

A pool keeps one context for each namespace in use and counts its users.
The first user of a name opens its handle, and the last one to give the
context back closes the handle at once, whoever else still knows the
context.
-/

namespace InterfaceManager

/-- A context in a pool with the number of its users. -/
structure Lease where
  context : Context
  refcount : Nat
  deriving DecidableEq, Repr

/-- The contexts in use, by name. -/
structure Pool where
  leases : List (String × Lease)
  deriving DecidableEq, Repr, Inhabited

namespace Pool

/-- A pool without contexts. -/
def empty : Pool := ⟨[]⟩

def lease? (p : Pool) (name : String) : Option Lease :=
  (p.leases.find? (fun entry => entry.1 == name)).map Prod.snd

/-- The number of users of a name, if there are any. -/
def refcount? (p : Pool) (name : String) : Option Nat :=
  (p.lease? name).map Lease.refcount

/-- The context of a name, without counting another user. -/
def get? (p : Pool) (name : String) : Option Context :=
  (p.lease? name).map Lease.context

def size (p : Pool) : Nat := p.leases.length

/-- Whether the pool holds no contexts. -/
def isEmpty (p : Pool) : Bool := p.leases.isEmpty

def names (p : Pool) : List String :=
  (p.leases.map Prod.fst).mergeSort (fun a b => decide (a ≤ b))

/-- Adds the first lease of a name. -/
def insert (p : Pool) (name : String) (lease : Lease) : Pool :=
  ⟨p.leases ++ [(name, lease)]⟩

/-- Sets the number of users of a name. -/
def setRefcount (p : Pool) (name : String) (refcount : Nat) : Pool :=
  ⟨p.leases.map fun (key, lease) =>
    if key = name then (key, { lease with refcount }) else (key, lease)⟩

def erase (p : Pool) (name : String) : Pool :=
  ⟨p.leases.filter fun entry => entry.1 != name⟩

/-- A pool as the description of a value. -/
def describe (p : Pool) : String :=
  "NamespaceContextPool \x7b contexts: " ++ Text.quotedList p.names
    ++ ", .. \x7d"

end Pool

/-- A session with the contexts created in it and a pool of them. -/
structure Pooled (η : Type) where
  session : Session η
  contexts : Contexts
  pool : Pool

namespace Pooled

def inSession (act : Action (Session η) α) : Action (Pooled η) α :=
  Action.focus session (fun t s => { s with session := t }) act

def note (n : Notice) : Action (Pooled η) Unit := inSession (Session.note n)

/-- Creates a context and enters it into the pool with one user. -/
def addContext (name : String) (handle : Option Handle) :
    Action (Pooled η) Context :=
  modifyGet fun s =>
    let (context, contexts) := s.contexts.create name handle
    (context, { s with
      contexts
      pool := s.pool.insert name ⟨context, 1⟩ })

/-- The context of `name` for one more user, created on first use.  A new
context enters the pool only once its handle has been opened. -/
def acquire (provider : NamespaceProvider η) (name : String) :
    Action (Pooled η) Context := do
  match (← get).pool.lease? name with
  | some lease =>
    let refcount := lease.refcount + 1
    modify fun s => { s with pool := s.pool.setRefcount name refcount }
    note (.contextReused name refcount)
    return lease.context
  | none =>
    let handle ←
      if name = "" then pure none
      else do
        note (.contextPrepared name)
        some <$> inSession (provider.openHandle name)
    let context ← addContext name handle
    note (.contextCreated name)
    return context

def close (context : Context) : Action (Pooled η) Unit := do
  if ((← get).contexts.handle? context).isSome then
    modify fun s => { s with contexts := s.contexts.close context }
    note (.handleClosed context.name)

/-- Gives a context back; the last user destroys it.  Giving back a context
that is not the one in the pool is an imbalance of the caller and panics. -/
def release (context : Context) : Action (Pooled η) Unit := do
  let name := context.name
  match (← get).pool.lease? name with
  | none => Action.panic s!"release of untracked namespace context '{name}'"
  | some lease =>
    if lease.context.id ≠ context.id then
      Action.panic s!"release of stale namespace context '{name}'"
    else if lease.refcount = 0 then
      Action.panic s!"namespace context '{name}' refcount underflow"
    else
      let refcount := lease.refcount - 1
      modify fun s => { s with pool := s.pool.setRefcount name refcount }
      note (.contextReleased name refcount)
      if refcount = 0 then
        close lease.context
        modify fun s => { s with pool := s.pool.erase name }
        note (.contextDestroyed name)

end Pooled

end InterfaceManager

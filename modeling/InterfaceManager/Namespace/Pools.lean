import InterfaceManager.Labelled
import InterfaceManager.Namespace.Pool
import InterfaceManager.Namespace.Scope

/-!
# Pools side by side

Any number of pools on one host, with contexts and scopes kept under
labels.  A run is a sequence of steps: contexts are acquired from a pool and
given back to one, not always to the right one; scopes are entered and left
in any order; operations run inside namespaces, nested in one another.
-/

namespace InterfaceManager

/-- What an operation inside a namespace does.  The type `ε` is that of
things that happen to the host from outside. -/
inductive Inside (ε : Type) where
  /-- Looks at the host. -/
  | look
  | fail (e : Error)
  | panic (message : String)
  | adjust (change : ε)
  /-- Runs another operation in the namespace of a kept context. -/
  | run (label operation : String) (inner : Inside ε)
  deriving Repr

inductive PoolsStep (ε : Type) where
  /-- Acquires a context from a pool and keeps it. -/
  | acquire (pool : Nat) (name label : String)
  /-- Keeps the context of a name without counting another user. -/
  | find (pool : Nat) (name label : String)
  /-- Keeps a context under another label as well. -/
  | share (label other : String)
  /-- Gives a context to a pool and no longer keeps it. -/
  | release (pool : Nat) (label : String)
  | run (label operation : String) (inner : Inside ε)
  /-- Enters a scope and keeps it.  Another scope under the same label is
  dropped after that. -/
  | enter (label operation scope : String)
  | leave (scope : String)
  | drop (scope : String)
  | adjust (change : ε)
  deriving Repr

inductive PoolsReply (η : Type) where
  | done
  | context (context : Option Context)
  | looked (host : Option η)
  | entered (scope : Scope)

/-- Pools on one host, and the contexts and scopes that are kept. -/
structure Pools (η : Type) where
  session : Session η
  contexts : Contexts
  pools : List Pool
  kept : Labelled Context
  scopes : Labelled Scope

namespace Pools

/-- The given number of empty pools on `host`. -/
def start (host : η) (count : Nat) : Pools η :=
  ⟨.start host, .empty, List.replicate count .empty, [], []⟩

def inSession (act : Action (Session η) α) : Action (Pools η) α :=
  Action.focus session (fun t s => { s with session := t }) act

/-- Runs an action of one of the pools.  A pool that does not exist is
empty and stays so. -/
def onPool (pool : Nat) (act : Action (Pooled η) α) : Action (Pools η) α :=
  Action.focus
    (fun s => ⟨s.session, s.contexts, s.pools.getD pool .empty⟩)
    (fun p s =>
      { s with
        session := p.session
        contexts := p.contexts
        pools := s.pools.set pool p.pool }) act

def keep (label : String) (context : Context) : Action (Pools η) Unit :=
  modify fun s => { s with kept := s.kept.put label context }

/-- Does what is done inside a namespace, where contexts are kept as given
and have the handles given. -/
def perform (provider : NamespaceProvider η) (adjust : η → ε → η)
    (contexts : Contexts) (kept : Labelled Context) :
    Inside ε → Action (Session η) (Option η)
  | .look => return some (← get).host
  | .fail e => Action.fail e
  | .panic message => Action.panic message
  | .adjust change => do
    modify fun s => { s with host := adjust s.host change }
    return none
  | .run label operation inner =>
    match kept.at? label with
    | some context =>
      runInNamespace provider context (contexts.handle? context) operation
        (perform provider adjust contexts kept inner)
    | none => return none

/-- Makes a step.  A label that nothing is kept under stands for no
step. -/
def step (provider : NamespaceProvider η) (adjust : η → ε → η) :
    PoolsStep ε → Action (Pools η) (PoolsReply η)
  | .acquire pool name label => do
    let context ← onPool pool (Pooled.acquire provider name)
    keep label context
    return .context (some context)
  | .find pool name label => do
    match ((← get).pools.getD pool .empty).get? name with
    | some context =>
      keep label context
      return .context (some context)
    | none => return .context none
  | .share label other => do
    match (← get).kept.at? label with
    | some context =>
      keep other context
      return .done
    | none => return .done
  | .release pool label => do
    match (← get).kept.at? label with
    | some context =>
      modify fun s => { s with kept := s.kept.without label }
      onPool pool (Pooled.release context)
      return .done
    | none => return .done
  | .run label operation inner => do
    let s ← get
    let host ← inSession <|
      perform provider adjust s.contexts s.kept (.run label operation inner)
    return .looked host
  | .enter label operation scope => do
    let s ← get
    match s.kept.at? label with
    | some context =>
      let entered ← inSession <|
        Scope.enter provider context (s.contexts.handle? context) operation
      let old := s.scopes.at? scope
      modify fun s => { s with scopes := s.scopes.put scope entered }
      match old with
      | some old => inSession (old.drop provider)
      | none => pure ()
      return .entered entered
    | none => return .done
  | .leave scope => do
    match (← get).scopes.at? scope with
    | some entered =>
      modify fun s => { s with scopes := s.scopes.without scope }
      inSession (entered.exit provider)
      return .done
    | none => return .done
  | .drop scope => do
    match (← get).scopes.at? scope with
    | some entered =>
      modify fun s => { s with scopes := s.scopes.without scope }
      inSession (entered.drop provider)
      return .done
    | none => return .done
  | .adjust change => do
    inSession <| modify fun s => { s with host := adjust s.host change }
    return .done

/-- Makes steps one after another, whatever way each of them ends in. -/
def run (provider : NamespaceProvider η) (adjust : η → ε → η) (s : Pools η)
    (steps : List (PoolsStep ε)) : Pools η :=
  steps.foldl
    (fun s next => (Action.outcome (step provider adjust next) s).2) s

end Pools

end InterfaceManager

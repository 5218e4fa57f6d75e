import InterfaceManager.Error

/-!
# Actions

An action transforms a state and ends in one of three ways: with a value,
with an error, or with a panic.  An error is an answer to the caller; a
panic unwinds through every action in progress.  In each of the three cases
the state is the one reached so far.
-/

namespace InterfaceManager

/-- How an action ends without a value. -/
inductive Fault where
  | error (e : Error)
  | panic (message : String)
  deriving Repr, Inhabited

/-- An action on a state of type `σ` with values of type `α`. -/
abbrev Action (σ α : Type) := EStateM Fault σ α

/-- How an action ended. -/
abbrev Outcome (α : Type) := Except Fault α

namespace Action

def fail (e : Error) : Action σ α := throw (.error e)

def panic (message : String) : Action σ α := throw (.panic message)

/-- The way in which an action ends and the state it leaves. -/
def outcome (act : Action σ α) (s : σ) : Outcome α × σ :=
  match act s with
  | .ok a s => (.ok a, s)
  | .error f s => (.error f, s)

/-- The action that ends in a given way. -/
def ofOutcome : Outcome α → Action σ α
  | .ok a => pure a
  | .error f => throw f

/-- Runs an action and gives the way in which it ended as a value. -/
def attempt (act : Action σ α) : Action σ (Outcome α) := fun s =>
  match act s with
  | .ok a s => .ok (.ok a) s
  | .error f s => .ok (.error f) s

/-- Runs `act`, and then `last` in whatever way `act` ended.  The way in
which `act` ended is kept. -/
def andFinally (act : Action σ α) (last : σ → σ) : Action σ α := fun s =>
  match act s with
  | .ok a s => .ok a (last s)
  | .error f s => .error f (last s)

/-- Runs an action and changes the error it ends with, if it does. -/
def mapError (f : Error → Error) (act : Action σ α) : Action σ α := fun s =>
  match act s with
  | .ok a s => .ok a s
  | .error (.error e) s => .error (.error (f e)) s
  | .error (.panic message) s => .error (.panic message) s

/-- Runs an action and gives its value or its error as a value. -/
def tried (act : Action σ α) : Action σ (Except Error α) := fun s =>
  match act s with
  | .ok a s => .ok (.ok a) s
  | .error (.error e) s => .ok (.error e) s
  | .error (.panic message) s => .error (.panic message) s

/-- Runs an action on a part of a state, given how the part is read and
replaced. -/
def focus (get : σ → τ) (set : τ → σ → σ) (act : Action τ α) : Action σ α :=
  fun s =>
    match act (get s) with
    | .ok a t => .ok a (set t s)
    | .error f t => .error f (set t s)

/-- The value of an action that may only fail with an error. -/
def ofExcept : Except Error α → Action σ α
  | .ok a => pure a
  | .error e => fail e

end Action

end InterfaceManager

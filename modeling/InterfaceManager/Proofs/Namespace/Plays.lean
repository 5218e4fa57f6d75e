import InterfaceManager.Proofs.Namespace.Scope
import InterfaceManager.Namespace.Pools
import InterfaceManager.System.Machine
import InterfaceManager.InMemory.Namespaces

/-!
# Plays

A play is a list of turns that can be taken with pools in memory as well as
with pools of a machine.  What the hosts offer and refuse is set from outside,
between the turns and inside the runs.  Runs are not nested in one another: a
closure is told where the thread is, which is put on record, and answers as it
likes.
-/

namespace InterfaceManager

open InterfaceManager.Action

/-- What the two hosts offer and refuse from some moment on. -/
structure Staging where
  /-- The names that can be opened in memory. -/
  known : List String
  failingEnter : List String
  failingExit : List String
  kernel : Kernel
  /-- The names of the files of the machine. -/
  entries : List (Location × FileNode)
  /-- What the files hold that the machine gets beside those it has. -/
  added : List FileContents

def MemoryNamespaces.staged (m : MemoryNamespaces) (staging : Staging) :
    MemoryNamespaces :=
  { m with
    known := staging.known
    failingEnter := staging.failingEnter
    failingExit := staging.failingExit }

def Machine.staged (m : Machine) (staging : Staging) : Machine :=
  { m with
    kernel := staging.kernel
    files := ⟨staging.entries, m.files.contents ++ staging.added⟩ }

/-- A turn of a play.  A run takes place in the namespace of a kept context:
the hosts are set once more, and then the closure is told where the thread
is. -/
inductive Turn (α : Type) where
  | stage (staging : Staging)
  | acquire (pool : Nat) (name label : String)
  | release (pool : Nat) (label : String)
  | run (label operation : String) (inside : Staging)
      (closure : String → Outcome α)

/-- What is observed of a turn. -/
structure Point (α : Type) where
  /-- What closures were told. -/
  seen : List String
  answer : Outcome (Option α)
  /-- Where the thread is afterwards. -/
  current : String

/-- A provider with what a play needs to know of its host. -/
structure Rig (η : Type) where
  provider : NamespaceProvider η
  staged : η → Staging → η
  current : η → String

namespace ScopeEvent

/-- The answer of an operation that has run. -/
def ran? : ScopeEvent α → Option (Outcome α)
  | ran answer => some answer
  | call _ => none

def values (events : List (ScopeEvent α)) : List α :=
  events.filterMap fun event => event.ran?.bind Except.toOption

@[simp] theorem values_append (first second : List (ScopeEvent α)) :
    values (first ++ second) = values first ++ values second :=
  List.filterMap_append

@[simp] theorem values_call (events : List ProviderEvent) :
    values (α := α) (events.map .call) = [] := by
  simp [values, ran?]

@[simp] theorem values_ran (a : α) (events : List (ScopeEvent α)) :
    values (.ran (.ok a) :: events) = a :: values events := rfl

@[simp] theorem values_nil : values (α := α) [] = [] := rfl

end ScopeEvent

namespace Rig

/-- Sets the host and tells the closure where the thread is, which is put on
record. -/
def inside (rig : Rig η) (staging : Staging) (closure : String → Outcome α) :
    Action (Session (Recorded (ScopeEvent String) η)) α := do
  let here ← Action.recorded .ran do
    modify fun s => { s with host := rig.staged s.host staging }
    return rig.current (← get).host
  Action.ofOutcome (closure here)

/-- A run in the namespace of a context: what its closure was told, how it
ended, and the session after it. -/
def visit (rig : Rig η) (context : Context) (handle : Option Handle)
    (operation : String) (staging : Staging) (closure : String → Outcome α)
    (s : Session η) : List String × Outcome α × Session η :=
  let ended := outcome
    (runInNamespace (rig.provider.recorded .call) context handle operation
      (rig.inside staging closure)) (s.record [])
  (ScopeEvent.values ended.2.host.calls, ended.1,
    ⟨ended.2.host.host, ended.2.journal⟩)

/-- Takes a step of pools, of which nothing is observed but how it ends. -/
def step (rig : Rig η) (next : PoolsStep Staging) (s : Pools η) :
    List String × Outcome (Option α) × Pools η :=
  let ended := outcome (Pools.step rig.provider rig.staged next) s
  ([], ended.1.map fun _ => none, ended.2)

def take (rig : Rig η) (s : Pools η) :
    Turn α → List String × Outcome (Option α) × Pools η
  | .stage staging => rig.step (.adjust staging) s
  | .acquire pool name label => rig.step (.acquire pool name label) s
  | .release pool label => rig.step (.release pool label) s
  | .run label operation staging closure =>
    match s.kept.at? label with
    | none => ([], .ok none, s)
    | some context =>
      let (seen, answer, session) :=
        rig.visit context (s.contexts.handle? context) operation staging
          closure s.session
      (seen, answer.map some, { s with session })

def point (rig : Rig η) (s : Pools η) (turn : Turn α) : Point α :=
  let (seen, answer, later) := rig.take s turn
  ⟨seen, answer, rig.current later.session.host⟩

def after (rig : Rig η) (s : Pools η) (turns : List (Turn α)) : Pools η :=
  turns.foldl (fun s turn => (rig.take s turn).2.2) s

/-! ## A run without its record -/

theorem outcome_enter_recorded (provider : NamespaceProvider η)
    (context : Context) (handle : Option Handle) (operation : String)
    (s : Session η) :
    ∃ events : List ProviderEvent,
      outcome (Scope.enter (provider.recorded (ScopeEvent.call (α := α)))
          context handle operation) (s.record []) =
        let entered := outcome (Scope.enter provider context handle operation) s
        (entered.1, entered.2.record (events.map .call)) := by
  cases named : context.isDefault with
  | true =>
    refine ⟨[], ?_⟩
    simp only [Scope.outcome_enter_default _ handle operation _ named]
    rfl
  | false =>
    cases handle with
    | none =>
      refine ⟨[], ?_⟩
      simp only [Scope.outcome_enter_closed _ operation _ named]
      rfl
    | some handle =>
      let asked := s.noting (.switching context.name operation)
      refine ⟨[.entered handle (outcome (provider.enter handle) asked).1], ?_⟩
      simp only [Scope.outcome_enter_open _ handle operation _ named,
        Session.noting_record, NamespaceProvider.outcome_recorded_enter]
      rcases outcome (provider.enter handle)
        (s.noting (.switching context.name operation))
        with ⟨(e | message) | state, t⟩ <;> rfl

theorem outcome_exit_recorded (provider : NamespaceProvider η)
    (scope : Scope) (s : Session η) (calls : List (ScopeEvent α)) :
    ∃ events : List ProviderEvent,
      outcome (scope.exit (provider.recorded .call)) (s.record calls) =
        let left := outcome (scope.exit provider) s
        (left.1, left.2.record (calls ++ events.map .call)) := by
  obtain ⟨operation, saved⟩ := scope
  cases saved with
  | none =>
    refine ⟨[], ?_⟩
    rw [List.map_nil, List.append_nil]
    rfl
  | some state =>
    exact ⟨[.left state (outcome (provider.exit state) s).1],
      Scope.outcome_restore_recorded (ScopeEvent.call (α := α)) provider
        operation state s calls⟩

theorem outcome_inside (rig : Rig η) (staging : Staging)
    (closure : String → Outcome α) (s : Session η)
    (calls : List (ScopeEvent String)) :
    outcome (rig.inside staging closure) (s.record calls) =
      let set : Session η := { s with host := rig.staged s.host staging }
      (closure (rig.current set.host),
        set.record (calls ++ [.ran (.ok (rig.current set.host))])) := by
  simp only [inside, outcome_bind, outcome_recorded, outcome_modify,
    outcome_get, outcome_pure]
  cases closure (rig.current (rig.staged s.host staging)) <;> rfl

/-- A run enters a scope, tells the closure where that has led, and leaves
the scope. -/
theorem visit_eq (rig : Rig η) (context : Context) (handle : Option Handle)
    (operation : String) (staging : Staging) (closure : String → Outcome α)
    (s : Session η) :
    rig.visit context handle operation staging closure s =
      match outcome (Scope.enter rig.provider context handle operation) s with
      | (.error f, t) => ([], .error f, t)
      | (.ok scope, t) =>
        let set : Session η := { t with host := rig.staged t.host staging }
        let here := rig.current set.host
        let left := outcome (scope.exit rig.provider) set
        ([here], Scope.ending (closure here) left.1, left.2) := by
  obtain ⟨events, entering⟩ := outcome_enter_recorded (α := String)
    rig.provider context handle operation s
  rw [visit, outcome_runInNamespace_eq, entering]
  rcases outcome (Scope.enter rig.provider context handle operation) s
    with ⟨f | scope, t⟩
  · exact Prod.ext (ScopeEvent.values_call events) rfl
  · let set : Session η := { t with host := rig.staged t.host staging }
    obtain ⟨more, leaving⟩ := outcome_exit_recorded rig.provider scope set
      (events.map .call ++ [.ran (.ok (rig.current set.host))])
    simp only [outcome_inside]
    rw [leaving]
    refine Prod.ext ?_ rfl
    simp [set]

section Visit

variable (rig : Rig η) {context : Context} (operation : String)
  (staging : Staging) (closure : String → Outcome α) {s t u : Session η}

theorem visit_default (default : context.isDefault = true)
    (handle : Option Handle) (s : Session η) :
    rig.visit context handle operation staging closure s =
      let set : Session η := { s with host := rig.staged s.host staging }
      let here := rig.current set.host
      ([here], closure here, set) := by
  simp only [visit_eq, Scope.outcome_enter_default _ handle operation s default]
  rcases closure (rig.current (rig.staged s.host staging))
    with ⟨_ | _⟩ | _ <;> rfl

variable (named : context.isDefault = false)

include named

theorem visit_closed (s : Session η) :
    rig.visit context none operation staging closure s =
      ([], .error (.error (.namespaceSwitch context.name Scope.closedMessage)),
        s.noting (.contextAlreadyClosed context.name operation)) := by
  simp only [visit_eq, Scope.outcome_enter_closed _ operation s named]

variable {handle : Handle} {state : SwitchState} {e : Error}

theorem visit_refused
    (entering : outcome (rig.provider.enter handle)
      (s.noting (.switching context.name operation)) =
        (.error (.error e), t)) :
    rig.visit context (some handle) operation staging closure s =
      ([], .error (.error (Scope.switchError context.name e)),
        t.noting (.switchFailed context.name operation e)) := by
  simp only [visit_eq, Scope.outcome_enter_open _ handle operation s named,
    entering]

variable (entering : outcome (rig.provider.enter handle)
  (s.noting (.switching context.name operation)) = (.ok state, t))

include entering

theorem visit_returned
    (leaving : outcome (rig.provider.exit state)
      { t with host := rig.staged t.host staging } = (.ok (), u)) :
    rig.visit context (some handle) operation staging closure s =
      let here := rig.current (rig.staged t.host staging)
      ([here], closure here,
        u.noting (.switchedBack state.target operation)) := by
  simp only [visit_eq, Scope.outcome_enter_open _ handle operation s named,
    entering, Scope.exit, Scope.outcome_restore, leaving]
  rcases closure (rig.current (rig.staged t.host staging))
    with ⟨_ | _⟩ | _ <;> rfl

theorem visit_stranded
    (leaving : outcome (rig.provider.exit state)
      { t with host := rig.staged t.host staging } = (.error (.error e), u)) :
    rig.visit context (some handle) operation staging closure s =
      let here := rig.current (rig.staged t.host staging)
      ([here],
        Scope.ending (closure here)
          (.error (.error (Scope.restoreError state.target e))),
        u.noting (.switchBackFailed state.target operation e)) := by
  simp only [visit_eq, Scope.outcome_enter_open _ handle operation s named,
    entering, Scope.exit, Scope.outcome_restore, leaving]

end Visit

end Rig

end InterfaceManager

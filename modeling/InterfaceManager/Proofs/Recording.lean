import InterfaceManager.Device.State
import InterfaceManager.Proofs.Outcome

/-!
# Recorded calls

A host can be given a record of the calls that are made on it, each with its
answer.  Recording changes nothing else: a recorded action ends as the plain
one does and leaves the same host and the same journal.
-/

namespace InterfaceManager

/-- A host and the calls made on it so far, oldest first. -/
structure Recorded (κ η : Type) where
  host : η
  calls : List κ

/-- The session with a record of calls beside its host. -/
def Session.record (s : Session η) (calls : List κ) :
    Session (Recorded κ η) :=
  ⟨⟨s.host, calls⟩, s.journal⟩

@[simp] theorem Session.host_record (s : Session η) (calls : List κ) :
    (s.record calls).host = ⟨s.host, calls⟩ := rfl

@[simp] theorem Session.noting_record
    (s : Session η) (calls : List κ) (n : Notice) :
    (s.record calls).noting n = (s.noting n).record calls := rfl

/-- The action on the host, put on record with the way in which it ended. -/
def Action.recorded (event : Outcome α → κ) (act : Action (Session η) α) :
    Action (Session (Recorded κ η)) α := fun s =>
  match Action.outcome act ⟨s.host.host, s.journal⟩ with
  | (.ok a, t) => .ok a (t.record (s.host.calls ++ [event (.ok a)]))
  | (.error f, t) => .error f (t.record (s.host.calls ++ [event (.error f)]))

@[simp] theorem Action.outcome_recorded
    (event : Outcome α → κ) (act : Action (Session η) α)
    (s : Session η) (calls : List κ) :
    Action.outcome (act.recorded event) (s.record calls) =
      ((Action.outcome act s).1,
        (Action.outcome act s).2.record
          (calls ++ [event (Action.outcome act s).1])) := by
  simp only [Action.recorded, Session.record, Action.outcome]
  cases act s <;> rfl

theorem Action.outcome_recorded_eq
    (event : Outcome α → κ) (act : Action (Session η) α)
    (s : Session (Recorded κ η)) :
    Action.outcome (act.recorded event) s =
      let ran := Action.outcome act ⟨s.host.host, s.journal⟩
      (ran.1, ran.2.record (s.host.calls ++ [event ran.1])) :=
  Action.outcome_recorded event act ⟨s.host.host, s.journal⟩ s.host.calls

theorem Action.Answers.recorded {act : Action (Session η) α}
    (answers : act.Answers) (event : Outcome α → κ) :
    (act.recorded event).Answers := by
  intro s message
  rw [Action.outcome_recorded_eq]
  exact answers _ message

inductive ProviderEvent where
  | opened (name : String) (answer : Outcome Handle)
  | entered (handle : Handle) (answer : Outcome SwitchState)
  | left (state : SwitchState) (answer : Outcome Unit)

/-- The provider with its calls on record. -/
def NamespaceProvider.recorded
    (event : ProviderEvent → κ) (provider : NamespaceProvider η) :
    NamespaceProvider (Recorded κ η) where
  openHandle name :=
    (provider.openHandle name).recorded fun answer =>
      event (.opened name answer)
  enter handle :=
    (provider.enter handle).recorded fun answer =>
      event (.entered handle answer)
  exit state :=
    (provider.exit state).recorded fun answer => event (.left state answer)

namespace NamespaceProvider

variable (event : ProviderEvent → κ) (provider : NamespaceProvider η)
  (s : Session η) (calls : List κ)

@[simp] theorem outcome_recorded_openHandle (name : String) :
    Action.outcome ((provider.recorded event).openHandle name)
        (s.record calls) =
      let answer := Action.outcome (provider.openHandle name) s
      (answer.1,
        answer.2.record (calls ++ [event (.opened name answer.1)])) := by
  simp [recorded]

@[simp] theorem outcome_recorded_enter (handle : Handle) :
    Action.outcome ((provider.recorded event).enter handle)
        (s.record calls) =
      let answer := Action.outcome (provider.enter handle) s
      (answer.1,
        answer.2.record (calls ++ [event (.entered handle answer.1)])) := by
  simp [recorded]

@[simp] theorem outcome_recorded_exit (state : SwitchState) :
    Action.outcome ((provider.recorded event).exit state) (s.record calls) =
      let answer := Action.outcome (provider.exit state) s
      (answer.1,
        answer.2.record (calls ++ [event (.left state answer.1)])) := by
  simp [recorded]

end NamespaceProvider

/-- A call on interfaces with its answer. -/
inductive LinkEvent where
  | resolved (ifindex : IfIndex) (answer : Outcome String)
  | queried (devName : String) (answer : Outcome LinkState)
  | upDown (devName : String) (up : Bool) (answer : Outcome Unit)
  | addressAdded (devName : String) (address : Address) (length : UInt8)
      (answer : Outcome Unit)
  | routeAdded (devName : String) (destination : Address) (length : UInt8)
      (gateway : Option Address) (answer : Outcome Unit)

/-- The control of interfaces with its calls on record. -/
def LinkControl.recorded
    (event : LinkEvent → κ) (links : LinkControl η) :
    LinkControl (Recorded κ η) where
  resolveName ifindex :=
    (links.resolveName ifindex).recorded fun answer =>
      event (.resolved ifindex answer)
  linkState devName :=
    (links.linkState devName).recorded fun answer =>
      event (.queried devName answer)
  setUp devName up :=
    (links.setUp devName up).recorded fun answer =>
      event (.upDown devName up answer)
  addAddress devName address length :=
    (links.addAddress devName address length).recorded fun answer =>
      event (.addressAdded devName address length answer)
  addRoute devName destination length gateway :=
    (links.addRoute devName destination length gateway).recorded fun answer =>
      event (.routeAdded devName destination length gateway answer)

/-- A call of a backend with its answer. -/
inductive BackendEvent where
  | provider (event : ProviderEvent)
  | link (event : LinkEvent)

/-- The backend with all its calls on record. -/
def Backend.recorded (backend : Backend η ε) :
    Backend (Recorded BackendEvent η) ε where
  provider := backend.provider.recorded .provider
  links := backend.links.recorded .link
  adjust recorded change :=
    { recorded with host := backend.adjust recorded.host change }

/-- The pool with a record of calls beside the host. -/
def Pooled.record (p : Pooled η) (calls : List κ) :
    Pooled (Recorded κ η) where
  session := p.session.record calls
  contexts := p.contexts
  pool := p.pool

/-- The manager with a record of calls beside the host. -/
def Manager.record (m : Manager η) (calls : List κ) :
    Manager (Recorded κ η) where
  toPooled := m.toPooled.record calls
  registry := m.registry

/-- The device at work with a record of calls beside the host. -/
def DeviceState.record (s : DeviceState η ε) (calls : List κ) :
    DeviceState (Recorded κ η) ε where
  manager := s.manager.record calls
  device := s.device
  reports := s.reports

end InterfaceManager

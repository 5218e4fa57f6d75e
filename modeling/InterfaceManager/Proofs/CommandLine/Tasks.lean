import InterfaceManager.CommandLine.Run
import InterfaceManager.Proofs.System.Devices

/-!
# Outcomes of commands

How the parts of a command end and what they leave on the desk, said in
terms of the actions they run.  A complaint ends a command; the lines that
have been written until then stay.
-/

namespace InterfaceManager.CommandLine

open InterfaceManager.Action

namespace Task

variable {desk : Desk σ}

/-- A task that ends with a complaint is not gone on with. -/
theorem outcome_bind (task : Task σ α) (next : α → Task σ β)
    (desk : Desk σ) :
    outcome (ExceptT.run (task >>= next)) desk =
      match outcome (ExceptT.run task) desk with
      | (.ok (.ok a), d) => outcome (ExceptT.run (next a)) d
      | (.ok (.error complaint), d) => (.ok (.error complaint), d)
      | (.error f, d) => (.error f, d) := by
  rw [ExceptT.run_bind, Action.outcome_bind]
  rcases outcome (ExceptT.run task) desk with ⟨f | complaint | a, d⟩ <;> rfl

theorem outcome_simply (act : Action σ α) (desk : Desk σ) :
    outcome (ExceptT.run (simply act)) desk =
      ((outcome act desk.work).1.map Except.ok,
        { desk with work := (outcome act desk.work).2 }) := by
  simp [simply, ExceptT.run_lift, outcome_map]

theorem outcome_write (lines : Lines) (desk : Desk σ) :
    outcome (ExceptT.run (write lines : Task σ Unit)) desk =
      (.ok (.ok ()), { desk with written := desk.written ++ lines }) := rfl

section Attempts

variable {act : Action σ α} {w : σ} (attempt : String)

theorem outcome_attempting_ok {a : α}
    (acting : outcome act desk.work = (.ok a, w)) :
    outcome (ExceptT.run (attempting attempt act)) desk =
      (.ok (.ok a), { desk with work := w }) := by
  rw [attempting, outcome_bind, outcome_simply, outcome_tried, acting]
  rfl

theorem outcome_attempting_error {e : Error}
    (acting : outcome act desk.work = (.error (.error e), w)) :
    outcome (ExceptT.run (attempting attempt act)) desk =
      (.ok (.error (attempt :: e.message :: e.causes)),
        { desk with work := w }) := by
  rw [attempting, outcome_bind, outcome_simply, outcome_tried, acting]
  rfl

theorem outcome_plainly_ok {a : α}
    (acting : outcome act desk.work = (.ok a, w)) :
    outcome (ExceptT.run (plainly act)) desk =
      (.ok (.ok a), { desk with work := w }) := by
  rw [plainly, outcome_bind, outcome_simply, outcome_tried, acting]
  rfl

end Attempts

end Task

/-! ## Commands on one device -/

namespace Selection

/-- The device of a manager that is to be registered for the selected
interface. -/
def device (s : Selection) (m : Manager Machine) : Device Machine.Change :=
  { Device.fresh ⟨m.registry.next⟩ s.deviceName with
    ifindex := s.ifindex, netns := s.netns }

def station (s : Selection) (m : Manager Machine) : Station :=
  ⟨m.allocated s.deviceName, s.device m, []⟩

end Selection

section

variable {config : NamespaceConfig} {selection : Selection}
  {m : Manager Machine} {written : Lines} {task : Task Station Unit}
  {w : Station}

/-- The desk with a device that has just been allocated. -/
def deskWith (selection : Selection) (m : Manager Machine) (written : Lines) :
    Desk Station :=
  ⟨⟨m.allocated selection.deviceName,
    .fresh ⟨m.registry.next⟩ selection.deviceName, []⟩, written⟩

theorem outcome_openDevice_ok
    (registering : outcome (DeviceState.register (Machine.backend config))
      (selection.station m) = (.ok (), w)) :
    outcome (ExceptT.run (openDevice config selection))
        (deskWith selection m written) =
      (.ok (.ok ()), ⟨w, written⟩) := by
  rw [openDevice, Task.outcome_bind,
    Task.outcome_plainly_ok (DeviceState.outcome_setIfindex selection.ifindex rfl)]
  dsimp only
  rw [Task.outcome_bind,
    Task.outcome_plainly_ok (DeviceState.outcome_setNetns selection.netns rfl)]
  exact Task.outcome_attempting_ok _ registering

theorem outcome_openDevice_error (written : Lines) {e : Error}
    (registering : outcome (DeviceState.register (Machine.backend config))
      (selection.station m) = (.error (.error e), w)) :
    ∃ attempt,
      outcome (ExceptT.run (openDevice config selection))
          (deskWith selection m written) =
        (.ok (.error (attempt :: e.message :: e.causes)), ⟨w, written⟩) := by
  rw [openDevice, Task.outcome_bind,
    Task.outcome_plainly_ok (DeviceState.outcome_setIfindex selection.ifindex rfl)]
  dsimp only
  rw [Task.outcome_bind,
    Task.outcome_plainly_ok (DeviceState.outcome_setNetns selection.netns rfl)]
  exact ⟨_, Task.outcome_attempting_error _ registering⟩

/-- The device is freed whatever came before, and then what came before is
the end. -/
theorem outcome_withDevice {result : Except Complaint Unit}
    {d : Desk Station} {freed : Station}
    (working : outcome (ExceptT.run do openDevice config selection; task)
      (deskWith selection m written) = (.ok result, d))
    (freeing : outcome DeviceState.free d.work = (.ok (), freed)) :
    outcome (ExceptT.run (withDevice config selection task)) ⟨m, written⟩ =
      (.ok result, ⟨freed.manager, d.written⟩) := by
  have kept : outcome (ExceptT.run do
      let result ← ExceptT.lift <| ExceptT.run do
        openDevice config selection
        task
      Task.simply DeviceState.free
      MonadExcept.ofExcept result : Task Station Unit)
      (deskWith selection m written) = (.ok result, ⟨freed, d.written⟩) := by
    rw [Task.outcome_bind, ExceptT.run_lift, outcome_map, working]
    dsimp only [Except.map]
    rw [Task.outcome_bind, Task.outcome_simply, freeing]
    cases result <;> rfl
  rw [withDevice, Task.outcome_bind, Task.outcome_simply,
    Manager.outcome_allocate]
  simp only [Except.map, ExceptT.run_mk, outcome_focus]
  rw [deskWith] at kept
  rw [kept]

/-- A command on a device ends as its task does once the device has been
registered, and the device is freed after that. -/
theorem outcome_withDevice_opened {result : Except Complaint Unit}
    {d : Desk Station} {freed : Station}
    (registering : outcome (DeviceState.register (Machine.backend config))
      (selection.station m) = (.ok (), w))
    (working : outcome (ExceptT.run task) ⟨w, written⟩ = (.ok result, d))
    (freeing : outcome DeviceState.free d.work = (.ok (), freed)) :
    outcome (ExceptT.run (withDevice config selection task)) ⟨m, written⟩ =
      (.ok result, ⟨freed.manager, d.written⟩) := by
  refine outcome_withDevice ?_ freeing
  rw [Task.outcome_bind, outcome_openDevice_ok registering]
  exact working

/-- A command on a device complains if the device cannot be registered; the
device is freed after that too. -/
theorem outcome_withDevice_unopened (written : Lines)
    (task : Task Station Unit) {e : Error} {freed : Station}
    (registering : outcome (DeviceState.register (Machine.backend config))
      (selection.station m) = (.error (.error e), w))
    (freeing : outcome DeviceState.free w = (.ok (), freed)) :
    ∃ attempt,
      outcome (ExceptT.run (withDevice config selection task))
          ⟨m, written⟩ =
        (.ok (.error (attempt :: e.message :: e.causes)),
          ⟨freed.manager, written⟩) := by
  obtain ⟨attempt, opening⟩ :=
    outcome_openDevice_error written registering
  refine ⟨attempt, outcome_withDevice (d := ⟨w, written⟩) ?_ freeing⟩
  rw [Task.outcome_bind, opening]

end

end InterfaceManager.CommandLine

import InterfaceManager.Proofs.Device.Keeping
import InterfaceManager.Proofs.System.Switching

/-!
# What calls leave alone

The calls of a machine move its thread and block and unblock signals.  The
kernel with its interfaces is only looked at, so whatever is served by these
calls leaves it as it was.
-/

namespace InterfaceManager.Machine

open InterfaceManager.Action

def HasKernel (kernel : Kernel) (s : Session Machine) : Prop :=
  s.host.kernel = kernel

variable {config : NamespaceConfig} {kernel : Kernel}

theorem note_keeps_kernel (n : Notice) :
    (Session.note n : Action (Session Machine) Unit).Keeps
      (HasKernel kernel) := by
  intro s same
  exact same

theorem openHandle_keeps_kernel (config : NamespaceConfig) (name : String) :
    (openHandle config name).Keeps (HasKernel kernel) := by
  unfold openHandle
  split
  · exact .fail _ _
  · refine (note_keeps_kernel _).bind fun _ => Keeps.get.bind fun s => ?_
    split
    · exact .pure _ _
    · exact .fail _ _

theorem returnSignals_keeps_kernel (saved : Option SignalSet) :
    (returnSignals saved).Keeps (HasKernel kernel) := by
  cases saved with
  | none => exact .pure _ _
  | some signals => exact .modify fun _ same => same

theorem enter_keeps_kernel (config : NamespaceConfig) (handle : Handle) :
    (enter config handle).Keeps (HasKernel kernel) := by
  intro s same
  rcases held : handle.object with _ | object
  · simp only [enter, held]
    exact same
  rcases opening : s.host.openFile config.selfPath with fault | previous
  · simp only [enter, held, outcome_bind, outcome_get, opening]
    exact same
  rcases switchTo_cases (entered config s.host s.host.current) object
    with ⟨e, switching⟩ | ⟨netns, -, switching⟩
  · simp only [enter, held, outcome_bind, outcome_get, opening,
      outcome_saveSignals, switching]
    rw [← outcome_bind]
    have undoes : (do
        returnSignals (savedSignals config s.host)
        fail (.namespaceSwitch handle.name e.symbolicMessage) :
          Action (Session Machine) SwitchState).Keeps (HasKernel kernel) :=
      (returnSignals_keeps_kernel _).bind fun _ => .fail _ _
    exact undoes { s with host := entered config s.host s.host.current } same
  · simp only [enter, held, outcome_bind, outcome_get, opening,
      outcome_saveSignals, switching]
    exact same

theorem leave_keeps_kernel (state : SwitchState) :
    (leave state).Keeps (HasKernel kernel) := by
  intro s same
  have left := exit_cases .preset state s
  rcases left with ⟨e, failed⟩ | ⟨previous, netns, t, -, -, done, moved⟩
  · change outcome (leave state) s = _ at failed
    rw [failed]
    exact same
  · change outcome (leave state) s = _ at done
    rw [done, HasKernel, moved]
    exact same

theorem resolveName_keeps_kernel (ifindex : IfIndex) :
    (resolveName ifindex).Keeps (HasKernel kernel) := by
  refine Keeps.get.bind fun s => ?_
  dsimp only
  split
  · exact .pure _ _
  · exact (note_keeps_kernel _).bind fun _ => .fail _ _

theorem answer_keeps_kernel (operation devName : String)
    (result : Except Errno α) :
    (answer operation devName result).Keeps (HasKernel kernel) := by
  cases result with
  | ok value => exact .pure _ _
  | error e => exact (note_keeps_kernel _).bind fun _ => .fail _ _

theorem linkState_keeps_kernel (devName : String) :
    (linkState devName).Keeps (HasKernel kernel) := by
  refine Keeps.get.bind fun s => ?_
  dsimp only
  split
  · exact .fail _ _
  · refine Keeps.bind ?_ fun name => ?_
    · cases queryName devName with
      | ok name => exact .pure _ _
      | error e => exact .fail _ _
    · refine (answer_keeps_kernel _ _ _).bind fun flags => ?_
      exact (answer_keeps_kernel _ _ _).bind fun mtu => .pure _ _

theorem refuse_keeps_kernel (operation devName : String) :
    (refuse operation devName).Keeps (HasKernel kernel) :=
  (note_keeps_kernel _).bind fun _ => .fail _ _

/-- The kernel of a machine is kept by all that its calls serve. -/
theorem served_kernel (config : NamespaceConfig) (kernel : Kernel) :
    Manager.Served (backend config) fun m =>
      m.session.host.kernel = kernel :=
  .of_host (J := fun m : Machine => m.kernel = kernel) {
    openHandle := openHandle_keeps_kernel config
    enter := enter_keeps_kernel config
    exit := leave_keeps_kernel
    resolveName := resolveName_keeps_kernel
    linkState := linkState_keeps_kernel
    setUp := fun devName _ => refuse_keeps_kernel _ devName
    addAddress := fun devName _ _ => refuse_keeps_kernel _ devName
    addRoute := fun devName _ _ _ => refuse_keeps_kernel _ devName }

end InterfaceManager.Machine

import InterfaceManager.Proofs.CommandLine.Complaints
import InterfaceManager.Proofs.Namespace.Failures
import InterfaceManager.Proofs.System.Constancy

/-!
# Commands that would alter an interface

A machine refuses to alter interfaces, so the commands that would do so
always fail and leave the kernel as it was.  What they complain about is the
refusal, unless the device cannot be registered or the thread cannot be
switched there and back; then it is that.
-/

namespace InterfaceManager

open InterfaceManager.Action

theorem head?_append_of_head? {a b : String} {c : Char}
    (starts : a.toList.head? = some c) : (a ++ b).toList.head? = some c := by
  rw [String.toList_append, List.head?_append, starts]
  rfl

/-- Only the wording of an unsupported operation starts with this letter. -/
theorem Error.unsupported_of_head? {e : Error}
    (starts : e.message.toList.head? = some 'O') :
    ∃ operation, e = .unsupported operation := by
  have differs : ∀ {c : Char}, c ≠ 'O' → e.message.toList.head? ≠ some c := by
    intro c other same
    rw [starts] at same
    exact other (Option.some.inj same).symm
  have append := @head?_append_of_head?
  cases e with
  | unsupported operation => exact ⟨operation, rfl⟩
  | io cause => exact absurd (append rfl) (differs (c := 'I') (by decide))
  | alreadyRegistered device | alreadyUnregistered device
  | notRegistered device =>
    exact absurd (append (append rfl)) (differs (c := 'D') (by decide))
  | noSuchDevice ifindex =>
    exact absurd (append rfl) (differs (c := 'N') (by decide))
  | namespaceOpen netns message | contextAcquisition netns source
  | namespaceSwitch netns message | namespaceRestore netns message primary =>
    exact absurd (append (append (append rfl)))
      (differs (c := 'C') (by decide))
  | linkControl operation message =>
    exact absurd (append (append (append rfl)))
      (differs (c := 'L') (by decide))
  | invalidConfig message =>
    exact absurd (append rfl) (differs (c := 'I') (by decide))

theorem Error.unsupported_of_message {e : Error} {operation : String}
    (same : e.message = (unsupported operation).message) :
    ∃ other, e = .unsupported other := by
  apply unsupported_of_head?
  rw [same]
  exact head?_append_of_head? rfl

namespace CommandLine

/-! ## Alterations -/

/-- What a command does that would alter an interface. -/
structure Alteration where
  selection : Selection
  /-- What the thread is switched for. -/
  operation : String
  /-- What is done then, to the interface with a name. -/
  act : String → Action (Session Machine) Unit
  /-- What is refused. -/
  refused : String
  /-- What a complaint says has been attempted. -/
  attempt : String → String
  /-- What would be written in the end. -/
  success : String → Lines
  harmless : ∀ config devName, (Machine.backend config).Harmless (act devName)
  refuses : ∀ devName s,
    (outcome (act devName) s).1 = .error (.error (.unsupported refused))
  keeps : ∀ devName kernel, (act devName).Keeps (Machine.HasKernel kernel)

namespace Alteration

def bring (selection : Selection) (up : Bool) : Alteration where
  selection
  operation := "bring_up_down"
  act devName := do
    Session.note (.bringing devName up)
    Machine.control.setUp devName up
  refused := "set_up"
  attempt name :=
    let state := if up then "up" else "down"
    s!"Failed to bring {name} {state}"
  success name :=
    let state := if up then "up" else "down"
    [s!"✅ {name} is {state}"]
  harmless config devName :=
    Device.setUp_harmless (Machine.backend_calm config).answers devName up
  refuses _ _ := rfl
  keeps devName _ := (Machine.note_keeps_kernel _).bind fun _ =>
    Machine.refuse_keeps_kernel _ devName

def addAddress (selection : Selection) (address : Cidr) : Alteration where
  selection
  operation := "add_address"
  act devName := do
    Session.note
      (.addingAddress devName address.address address.length.toUInt8)
    Machine.control.addAddress devName address.address address.length.toUInt8
  refused := "add_address"
  attempt name := s!"Failed to add address {address} to {name}"
  success name := [s!"✅ Added {address} to {name}"]
  harmless config devName := Device.addAddress_harmless
    (Machine.backend_calm config).answers devName address.address
    address.length.toUInt8
  refuses _ _ := rfl
  keeps devName _ := (Machine.note_keeps_kernel _).bind fun _ =>
    Machine.refuse_keeps_kernel _ devName

def addRoute (selection : Selection) (destination : Cidr)
    (via : Option Address) : Alteration where
  selection
  operation := "add_route"
  act devName := do
    Session.note (.addingRoute devName destination.address
      destination.length.toUInt8 via)
    Machine.control.addRoute devName destination.address
      destination.length.toUInt8 via
  refused := "add_route"
  attempt name := s!"Failed to add route {destination} dev {name}"
  success name :=
    match via with
    | some gateway => [s!"✅ Added route {destination} via {gateway} dev {name}"]
    | none => [s!"✅ Added route {destination} dev {name}"]
  harmless config devName := Device.addRoute_harmless
    (Machine.backend_calm config).answers devName destination.address
    destination.length.toUInt8 via
  refuses _ _ := rfl
  keeps devName _ := (Machine.note_keeps_kernel _).bind fun _ =>
    Machine.refuse_keeps_kernel _ devName

/-- The task of a command that would alter an interface. -/
def task (config : NamespaceConfig) (a : Alteration) : Task Station Unit := do
  let name ← devName
  let device ← Task.simply DeviceState.getDevice
  Task.attempting (a.attempt name) <| DeviceState.onManager <|
    device.onInterface (Machine.backend config) a.operation a.act
  Task.write (a.success name)

/-- The thread is switched to where the device is registered, and it is
switched back after the attempt. -/
def SwitchesBack (config : NamespaceConfig) (a : Alteration) (w : Station) :
    Prop :=
  ∃ context devName, w.device.context = some context ∧
    w.device.devName = some devName ∧
    InterfaceManager.SwitchesBack (Machine.provider config) context
      (w.manager.contexts.handle? context) a.operation (a.act devName)
      (w.manager.inside (w.device.visiting context devName)).session

end Alteration

/-- What a command does that would alter an interface; other commands do
nothing of that kind. -/
def Command.alteration? : Command → Option Alteration
  | .bring selection up => some (.bring selection up)
  | .addAddress selection address => some (.addAddress selection address)
  | .addRoute selection destination via =>
    some (.addRoute selection destination via)
  | _ => none

variable {config : NamespaceConfig} {a : Alteration}

theorem runCommand_of_alteration {command : Command}
    (altering : command.alteration? = some a) :
    runCommand config command =
      withDevice config a.selection (a.task config) := by
  cases command with
  | bring selection up => cases altering; rfl
  | addAddress selection address => cases altering; rfl
  | addRoute selection destination via =>
    cases altering
    cases via <;> rfl
  | _ => cases altering

/-! ## Refusals -/

theorem resolveName_error {ifindex : IfIndex} {s : Session Machine} {e : Error}
    (failed : (outcome (Machine.resolveName ifindex) s).1 =
      .error (.error e)) : e = .noSuchDevice ifindex := by
  rcases named : s.host.kernel.nameOf s.host.current ifindex with fault | name
  · simp only [Machine.resolveName, outcome_bind, outcome_get, named] at failed
    cases failed
    rfl
  · simp only [Machine.resolveName, outcome_bind, outcome_get, named] at failed
    cases failed

/-- A device that is not registered has not been refused for being altered. -/
theorem register_error_ne_unsupported {selection : Selection} {m : Machine}
    {e : Error} {w : Station}
    (registering : outcome (DeviceState.register (Machine.backend config))
      (selection.station (.start m)) = (.error (.error e), w))
    (operation : String) : e ≠ .unsupported operation := by
  rintro rfl
  rcases DeviceState.register_error_cases (Machine.backend_calm config).answers
      (station_sound config m selection) registering
    with same | ⟨source, same⟩ | ⟨context, handle, s, t, running⟩
  · cases same
  · cases same
  · rcases runInNamespace_error_cases running with failed | ⟨u, failed⟩
    · cases failed
    · cases resolveName_error failed

namespace Alteration

/-- On a registered device the task complains, about the refusal if and only
if the switches succeed. -/
theorem outcome_task {w : Station} (opened : Opened config w)
    (written : Lines) :
    ∃ (e : Error) (t : Session Machine) (attempt : String),
      outcome (ExceptT.run (a.task config)) ⟨w, written⟩ =
        (.ok (.error (attempt :: e.message :: e.causes)),
          ⟨{ w with manager := w.manager.withSession t }, written⟩) ∧
      (w.manager.withSession t).Sound (Machine.backend config) [w.device] ∧
      t.host.kernel = w.manager.session.host.kernel ∧
      (e.isSwitchFailure = true ∨ e = .unsupported a.refused) ∧
      (e = .unsupported a.refused ↔ a.SwitchesBack config w) := by
  have answers := (Machine.backend_calm config).answers
  obtain ⟨context, held⟩ := Option.isSome_iff_exists.mp opened.registered
  have named := (opened.sound.coherent w.device List.mem_cons_self).named
  rw [opened.registered, Option.isSome_iff_exists] at named
  obtain ⟨devName, known⟩ := named
  obtain ⟨result, t, acting, sound, -, -⟩ := Device.onInterface_sound answers
    opened.sound List.mem_cons_self a.operation (a.harmless config)
  have kernel := Device.onInterface_keeps (Machine.served_kernel config _)
    w.device a.operation (fun devName _ => a.keeps devName _) w.manager rfl
  have visiting := Device.outcome_onInterface_visiting
    (Machine.backend config) a.operation a.act w.manager held known
  obtain ⟨e, u, running, ends, switches⟩ := runInNamespace_of_failing
    answers.enter answers.exit context (w.manager.contexts.handle? context)
    a.operation (a.refuses devName) rfl
    (w.manager.inside (w.device.visiting context devName)).session
  rw [Manager.outcome_within] at visiting
  have failed : result = .error (.error e) := by
    have same := congrArg Prod.fst (acting.symm.trans visiting)
    exact same.trans (congrArg Prod.fst running)
  subst failed
  rw [acting] at kernel
  refine ⟨e, t, a.attempt (w.device.devName.getD ""), ?_, sound, kernel, ends,
    ?_⟩
  · have attempted : outcome (DeviceState.onManager
        (w.device.onInterface (Machine.backend config) a.operation a.act)) w =
        (.error (.error e), { w with manager := w.manager.withSession t }) := by
      rw [DeviceState.outcome_onManager, acting]
    rw [task, Task.outcome_bind, outcome_devName]
    dsimp only
    rw [Task.outcome_bind, Task.outcome_simply, DeviceState.outcome_getDevice]
    dsimp only [Except.map]
    rw [Task.outcome_bind, Task.outcome_attempting_error _ attempted]
  · rw [switches]
    constructor
    · intro switched
      exact ⟨context, devName, held, known, switched⟩
    · rintro ⟨context', devName', held', known', switched⟩
      rw [held] at held'
      rw [known] at known'
      cases held'
      cases known'
      exact switched

theorem eq_unsupported_of_ends {e : Error} {refused other : String}
    (ends : e.isSwitchFailure = true ∨ e = .unsupported refused)
    (unsupported : e = .unsupported other) : e = .unsupported refused := by
  rcases ends with failed | same
  · rw [unsupported] at failed
    cases failed
  · exact same

/-- The command always complains, has written nothing, and has left the
kernel alone. -/
theorem outcome_withDevice (config : NamespaceConfig) (a : Alteration)
    (m : Machine) :
    ∃ complaint d,
      outcome (ExceptT.run (withDevice config a.selection (a.task config)))
        ⟨.start m, []⟩ = (.ok (.error complaint), d) ∧
      d.written = [] ∧ d.work.session.host.kernel = m.kernel ∧
      (complaint.tail = [(Error.unsupported a.refused).message] ↔
        ∃ w, outcome (DeviceState.register (Machine.backend config))
            (a.selection.station (.start m)) = (.ok (), w) ∧
          a.SwitchesBack config w) := by
  have answers := (Machine.backend_calm config).answers
  have sound := station_sound config m a.selection
  have kernel := DeviceState.register_keeps
    (Machine.served_kernel config m.kernel) (.of_manager _)
    (a.selection.station (.start m)) rfl
  obtain ⟨result, w, registering, advance, answered⟩ :=
    DeviceState.register_performed answers (fun _ => False) sound
  rw [registering] at kernel
  rcases result with (e | message) | ⟨⟩
  · obtain ⟨freed, freeing, same⟩ := DeviceState.free_returns advance.sound
    obtain ⟨attempt, complaining⟩ :=
      outcome_withDevice_unopened [] (a.task config) registering freeing
    refine ⟨_, _, complaining, rfl, ?_, ?_⟩
    · exact (congrArg Machine.kernel same).trans kernel
    · have other := register_error_ne_unsupported registering
      apply iff_of_false
      · intro told
        obtain ⟨operation, unsupported⟩ := Error.unsupported_of_message
          (List.cons.inj told).1
        exact other operation unsupported
      · rintro ⟨w', registered, -⟩
        rw [registering] at registered
        cases registered
  · exact (answered message rfl).elim
  · obtain ⟨e, t, attempt, working, sound', same', ends, switches⟩ :=
      a.outcome_task (opened_of_register registering) []
    obtain ⟨freed, freeing, same⟩ := DeviceState.free_returns
      (s := { w with manager := w.manager.withSession t }) sound'
    refine ⟨_, _, outcome_withDevice_opened registering working freeing, rfl,
      ?_, ?_⟩
    · rw [← kernel]
      exact (congrArg Machine.kernel same).trans same'
    · constructor
      · intro told
        obtain ⟨operation, unsupported⟩ := Error.unsupported_of_message
          (List.cons.inj told).1
        exact ⟨w, registering,
          switches.mp (eq_unsupported_of_ends ends unsupported)⟩
      · rintro ⟨w', registered, switched⟩
        rw [registering] at registered
        cases registered
        rw [switches.mpr switched]
        rfl

end Alteration

/-! ## Runs of the program -/

theorem outcome_listNamespaces (config : NamespaceConfig) (m : Machine) :
    ∃ result d,
      outcome (ExceptT.run (listNamespaces config)) ⟨.start m, []⟩ =
        (.ok result, d) ∧
      ∀ complaint, result = .error complaint → d.written = [] := by
  rw [listNamespaces, Task.outcome_bind, Task.outcome_simply, outcome_get]
  dsimp only [Except.map]
  have host : (Manager.start m).session.host = m := rfl
  rw [Task.outcome_bind, host]
  cases Machine.namespaces config m with
  | error e => exact ⟨.error _, ⟨.start m, []⟩, rfl, fun _ _ => rfl⟩
  | ok names =>
    refine ⟨.ok (), _, rfl, ?_⟩
    rintro complaint ⟨⟩

/-- A command that ends with a complaint has written nothing, unless it is a
watch that polls more than once. -/
theorem runCommand_reserved (config : NamespaceConfig) {command : Command}
    (single : ∀ selection interval count,
      command = .watch selection interval count → count.getD 1 ≤ 1)
    (m : Machine) :
    ∃ result d,
      outcome (ExceptT.run (runCommand config command)) ⟨.start m, []⟩ =
        (.ok result, d) ∧
      ∀ complaint, result = .error complaint → d.written = [] := by
  have altering : ∀ a, command.alteration? = some a → ∃ result d,
      outcome (ExceptT.run (runCommand config command)) ⟨.start m, []⟩ =
        (.ok result, d) ∧
      ∀ complaint, result = .error complaint → d.written = [] := by
    intro a altering
    obtain ⟨complaint, d, complaining, silent, -⟩ :=
      a.outcome_withDevice config m
    rw [runCommand_of_alteration altering]
    exact ⟨.error complaint, d, complaining, fun _ _ => silent⟩
  cases command with
  | bring selection up => exact altering _ rfl
  | addAddress selection address => exact altering _ rfl
  | addRoute selection destination via => exact altering _ rfl
  | «show» selection json =>
    exact (showInterface_reserved json).withDevice selection m
  | watch selection interval count =>
    by_cases never : interval = 0
    · rw [runCommand, if_pos never]
      exact ⟨.error _, ⟨.start m, []⟩, rfl, fun _ _ => rfl⟩
    · rw [runCommand, if_neg never]
      exact (watchInterface_reserved interval
        (single selection interval count rfl)).withDevice selection m
  | namespaces => exact outcome_listNamespaces config m
  | version =>
    refine ⟨.ok (), _, Task.outcome_write _ _, ?_⟩
    rintro complaint ⟨⟩

theorem Invocation.errors_of_complained {i : Invocation} {m : Machine}
    {d : Desk (Manager Machine)} {complaint : Complaint}
    (asked : Option String)
    (complained : i.course m = (.ok (.error complaint), d)) :
    (i.run asked m).errors = [complaintLine complaint] := by
  rw [course] at complained
  simp [run, complained]

/-- The program never writes about what it has not done: if it fails, then
nothing has been written to the standard output.  This holds of a watch too,
if it polls only once.  To bring an interface up or down or to add an address
or a route always fails and leaves the kernel alone.  The complaint is about
the unsupported operation if and only if the device could be registered and
the thread was switched for the operation and switched back. -/
theorem run_writes_only_what_is_done {words : List String} {i : Invocation}
    (accepted : parse words = .ok i)
    (single : ∀ selection interval count,
      i.command = .watch selection interval count → count.getD 1 ≤ 1)
    (m : Machine) (asked : Option String) :
    let ending := run m asked words
    (ending.code ≠ 0 → ending.output = []) ∧
    ∀ a, i.command.alteration? = some a →
      ending.code = 1 ∧ ending.output = [] ∧
      (i.machineAfter m).kernel = m.kernel ∧
      ∃ complaint, (i.course m).1 = .ok (.error complaint) ∧
        ending.errors = [complaintLine complaint] ∧
        (complaint.tail = [(Error.unsupported a.refused).message] ↔
          ∃ w, outcome (DeviceState.register (Machine.backend i.config))
              (a.selection.station (.start m)) = (.ok (), w) ∧
            a.SwitchesBack i.config w) := by
  intro ending
  have running : ending = i.run asked m := by
    simp only [ending, run, accepted]
  rw [running]
  constructor
  · obtain ⟨result, d, course, silent⟩ :=
      runCommand_reserved i.config single m
    change i.course m = _ at course
    rcases result with complaint | ⟨⟩
    · intro _
      obtain ⟨-, output⟩ := Invocation.run_complained asked course
      exact output.trans (silent complaint rfl)
    · intro failed
      obtain ⟨done, -⟩ := Invocation.run_done asked course
      exact absurd done failed
  · intro a altering
    obtain ⟨complaint, d, complaining, silent, kernel, refusal⟩ :=
      a.outcome_withDevice i.config m
    rw [← runCommand_of_alteration altering] at complaining
    have course : i.course m = (.ok (.error complaint), d) := complaining
    obtain ⟨code, output⟩ := Invocation.run_complained asked course
    refine ⟨code, output.trans silent, ?_, complaint, congrArg Prod.fst course,
      Invocation.errors_of_complained asked course, refusal⟩
    rw [Invocation.machineAfter_eq course]
    exact kernel

theorem run_refuses_sameIndex :
    let words := ["--netns-dir", "netns", "up", "-n", "ns_a", "-i", "3"]
    let selection : Selection := ⟨⟨3⟩, some "ns_a"⟩
    let i : Invocation := ⟨false, some "netns", .bring selection true⟩
    let ending := run (twoNamespaces sameIndex) none words
    parse words = .ok i ∧ ending.code = 1 ∧ ending.output = [] ∧
    (i.machineAfter (twoNamespaces sameIndex)).kernel.links = sameIndex ∧
    ending.errors = ["❌ Error: Failed to bring wg0 up: "
      ++ "Operation not supported: set_up"] := by
  intro words selection i ending
  have accepted : parse words = .ok i :=
    Machine.eq_ok_of_toOption (by decide +kernel)
  have single : ∀ selection interval count,
      i.command = .watch selection interval count → count.getD 1 ≤ 1 := by
    rintro selection interval count ⟨⟩
  obtain ⟨-, refuses⟩ := run_writes_only_what_is_done accepted single
    (twoNamespaces sameIndex) none
  obtain ⟨code, output, kernel, -⟩ := refuses _ rfl
  exact ⟨accepted, code, output, congrArg Kernel.links kernel,
    by decide +kernel⟩

end CommandLine
end InterfaceManager

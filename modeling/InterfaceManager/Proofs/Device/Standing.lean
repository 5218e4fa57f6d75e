import InterfaceManager.Proofs.Device.Operation

/-!
# What reported changes tell of a device

The changes reported of a device, taken together, say whether it is
registered, where, and what has been observed on its interface.  Each
operation reports just the changes that it makes, in an order in which they
can happen, and none at all if it fails.  The one exception is a callback of
a rename that panics, for then the new name has been reported and is never
stored.
-/

namespace InterfaceManager

open InterfaceManager.Action

/-- What is known of a device from its changes: the interface that it is
registered on, if there is one, and what has been observed there. -/
structure Standing where
  binding : Option Binding
  devName : Option String
  up : Option Bool
  mtu : Option UInt32
  deriving DecidableEq, Repr

namespace Standing

/-- Nothing has happened to the device, or all of it has been undone. -/
def unbound : Standing := ⟨none, none, none, none⟩

/-- What is known after one more change. -/
def after (standing : Standing) : Change → Standing
  | .registered devName ifindex netns =>
    { standing with binding := some ⟨netns, ifindex⟩, devName := some devName }
  | .unregistered => unbound
  | .linkUpDown up => { standing with up := some up }
  | .renamed _ newName => { standing with devName := some newName }
  | .mtuChanged mtu => { standing with mtu := some mtu }

/-- What is known after changes one after another. -/
def following (standing : Standing) (changes : List Change) : Standing :=
  changes.foldl after standing

@[simp] theorem following_nil (standing : Standing) :
    standing.following [] = standing := rfl

@[simp] theorem following_append (standing : Standing)
    (first second : List Change) :
    standing.following (first ++ second) =
      (standing.following first).following second :=
  List.foldl_append

end Standing

namespace Device

/-- What should be known of a device. -/
def standing (d : Device ε) : Standing where
  binding := if d.isRegistered then some d.selected else none
  devName := d.devName
  up := d.up
  mtu := d.mtu

variable {d : Device ε}

theorem standing_binding_eq_none (unbound : d.context = none) :
    d.standing.binding = none := by
  simp [standing, isRegistered_eq_false unbound]

theorem standing_binding_isSome (registered : d.isRegistered = true) :
    d.standing.binding.isSome = true := by
  simp [standing, registered]

/-- Nothing is known of a device that is not registered. -/
theorem Coherent.standing_eq_unbound (coherent : d.Coherent)
    (unbound : d.context = none) : d.standing = .unbound := by
  have unregistered := isRegistered_eq_false unbound
  have unnamed : d.devName = none := by
    have named := coherent.named
    rw [unregistered] at named
    simpa using named
  obtain ⟨up, mtu⟩ := coherent.forgotten unbound
  simp [standing, unregistered, unnamed, up, mtu, Standing.unbound]

theorem standing_setCallback (d : Device ε)
    (callback : Option (Callback ε)) (kind : ObservationKind) :
    (d.setCallback callback kind).standing = d.standing := by
  cases kind <;> rfl

theorem name_setCallback (d : Device ε)
    (callback : Option (Callback ε)) (kind : ObservationKind) :
    (d.setCallback callback kind).name = d.name := by
  cases kind <;> rfl

theorem name_store (d : Device ε) (observation : Observation) :
    (d.store observation).name = d.name := by
  cases observation <;> rfl

/-- Storing an observation is what its change tells. -/
theorem standing_store (d : Device ε) (observation : Observation) :
    (d.store observation).standing =
      d.standing.after (observation.changeOf d) := by
  cases observation <;> rfl

/-- After a device has been freed, nothing is known of it. -/
theorem Coherent.following_farewell (coherent : d.Coherent) :
    d.standing.following d.farewell = .unbound := by
  rcases hcontext : d.context with _ | context
  · rw [farewell_eq_nil hcontext]
    exact coherent.standing_eq_unbound hcontext
  · rw [farewell_eq_singleton hcontext]
    rfl

end Device

/-! ## The order of changes -/

/-- A change can happen to a device of which this is known: it registers if
it is not registered, and all else happens only while it is.  A rename is
one from the name in force, and every value is a new one. -/
def Change.Due (standing : Standing) : Change → Prop
  | .registered .. => standing.binding = none
  | .unregistered => standing.binding.isSome = true
  | .linkUpDown up =>
    standing.binding.isSome = true ∧ standing.up ≠ some up
  | .renamed oldName newName =>
    standing.binding.isSome = true ∧ standing.devName = some oldName ∧
      newName ≠ oldName
  | .mtuChanged mtu =>
    standing.binding.isSome = true ∧ standing.mtu ≠ some mtu

/-- Each change can happen after the ones before it. -/
def Orderly (standing : Standing) : List Change → Prop
  | [] => True
  | change :: changes =>
    change.Due standing ∧ Orderly (standing.after change) changes

namespace Orderly

variable {standing : Standing} {first second changes : List Change}

theorem append (orderly : Orderly standing first)
    (rest : Orderly (standing.following first) second) :
    Orderly standing (first ++ second) := by
  induction first generalizing standing with
  | nil => exact rest
  | cons change first ih => exact ⟨orderly.1, ih orderly.2 rest⟩

/-- Every change is due after those before it. -/
theorem due {change : Change}
    (orderly : Orderly standing (first ++ change :: second)) :
    change.Due (standing.following first) := by
  induction first generalizing standing with
  | nil => exact orderly.1
  | cons earlier first ih => exact ih orderly.2

/-- While a device is registered only its end can make it unregistered. -/
theorem getLast?_of_following_eq_unbound
    (orderly : Orderly .unbound changes)
    (ended : Standing.unbound.following changes = .unbound) :
    changes = [] ∨ changes.getLast? = some .unregistered := by
  rcases changes.eq_nil_or_concat' with rfl | ⟨before, change, rfl⟩
  · exact Or.inl rfl
  · have due : change.Due (Standing.unbound.following before) :=
      Orderly.due orderly
    have unbound : ((Standing.unbound.following before).after
        change).binding = none := by
      rw [Standing.following_append] at ended
      exact congrArg Standing.binding ended
    rw [List.getLast?_concat]
    refine Or.inr (congrArg some ?_)
    cases change with
    | registered devName ifindex netns => cases unbound
    | unregistered => rfl
    | linkUpDown up =>
      exact absurd unbound (Option.isSome_iff_ne_none.mp due.1)
    | renamed oldName newName =>
      exact absurd unbound (Option.isSome_iff_ne_none.mp due.1)
    | mtuChanged mtu =>
      exact absurd unbound (Option.isSome_iff_ne_none.mp due.1)

end Orderly

/-- Whether a change registers a device or ends its registration, if it does
one of these. -/
def Change.registers? : Change → Option Bool
  | .registered .. => some true
  | .unregistered => some false
  | _ => none

/-- Truth values by turns, beginning with `first`. -/
def alternating (first : Bool) : Nat → List Bool
  | 0 => []
  | n + 1 => first :: alternating (!first) n

/-- Registrations and their ends take turns. -/
theorem Orderly.alternates {standing : Standing} {changes : List Change}
    (orderly : Orderly standing changes) :
    ∃ n, changes.filterMap Change.registers? =
      alternating standing.binding.isNone n := by
  induction changes generalizing standing with
  | nil => exact ⟨0, rfl⟩
  | cons change changes ih =>
    obtain ⟨due, rest⟩ := orderly
    obtain ⟨n, turns⟩ := ih rest
    cases change with
    | registered devName ifindex netns =>
      have unbound : standing.binding = none := due
      refine ⟨n + 1, ?_⟩
      rw [List.filterMap_cons, turns, unbound]
      rfl
    | unregistered =>
      have bound : standing.binding.isNone = false := by
        have isSome : standing.binding.isSome = true := due
        rw [← Option.not_isSome, isSome]
        rfl
      refine ⟨n + 1, ?_⟩
      rw [List.filterMap_cons, turns, bound]
      rfl
    | linkUpDown up => exact ⟨n, turns⟩
    | renamed oldName newName => exact ⟨n, turns⟩
    | mtuChanged mtu => exact ⟨n, turns⟩

/-- What an observation that is new to a registered device changes is due. -/
theorem Observation.due_changeOf {d : Device ε} (coherent : d.Coherent)
    (registered : d.isRegistered = true) {observation : Observation}
    (new : d.observed observation.kind ≠ some observation) :
    (observation.changeOf d).Due d.standing := by
  have bound := Device.standing_binding_isSome registered
  cases observation with
  | upDown up =>
    refine ⟨bound, fun known => new ?_⟩
    exact congrArg (Option.map Observation.upDown) known
  | devName name =>
    obtain ⟨oldName, named⟩ :=
      Option.isSome_iff_exists.mp (coherent.named.trans registered)
    refine ⟨bound, ?_, fun same => new ?_⟩
    · simp [Device.standing, named]
    · simp only [named, Option.getD_some] at same
      simp [Device.observed, Observation.kind, named, same]
  | mtu mtu =>
    refine ⟨bound, fun known => new ?_⟩
    exact congrArg (Option.map Observation.mtu) known

/-! ## What operations report -/

namespace DeviceState

/-- From `s` to `t` the changes have been reported of the device, in order,
and they tell what has become of it. -/
structure Tells (s : DeviceState η ε) (changes : List Change)
    (t : DeviceState η ε) : Prop where
  reported : t.manager.session.changes =
    s.manager.session.changes ++
      changes.map fun change => (s.device.name, change)
  name : t.device.name = s.device.name
  orderly : Orderly s.device.standing changes
  standing : t.device.standing = s.device.standing.following changes

namespace Tells

variable {s t u : DeviceState η ε} {first second : List Change}

/-- Nothing has been reported, and nothing has changed. -/
theorem silent
    (reported : t.manager.session.changes = s.manager.session.changes)
    (name : t.device.name = s.device.name)
    (standing : t.device.standing = s.device.standing) : Tells s [] t where
  reported := by
    rw [List.map_nil, List.append_nil]
    exact reported
  name := name
  orderly := trivial
  standing := standing

theorem refl (s : DeviceState η ε) : Tells s [] s := silent rfl rfl rfl

theorem unreported (tells : Tells s [] t) :
    t.manager.session.changes = s.manager.session.changes := by
  have reported := tells.reported
  rw [List.map_nil, List.append_nil] at reported
  exact reported

/-- One change has been reported and made. -/
theorem single {change : Change}
    (reported : t.manager.session.changes =
      s.manager.session.changes ++ [(s.device.name, change)])
    (name : t.device.name = s.device.name)
    (due : change.Due s.device.standing)
    (standing : t.device.standing = s.device.standing.after change) :
    Tells s [change] t :=
  ⟨reported, name, ⟨due, trivial⟩, standing⟩

theorem trans (early : Tells s first t) (late : Tells t second u) :
    Tells s (first ++ second) u where
  reported := by
    rw [late.reported, early.reported, early.name, List.map_append,
      List.append_assoc]
  name := late.name.trans early.name
  orderly := early.orderly.append (early.standing ▸ late.orderly)
  standing := by
    rw [late.standing, early.standing, Standing.following_append]

end Tells

/-- An action ended with the panic of a callback of a rename. -/
def RenamePanics (result : Outcome α) (t : DeviceState η ε) : Prop :=
  ∃ message name, result = .error (.panic message) ∧
    (Report.calls t.reports).getLast? = some (.devName name)

/-- What an action reports tells what it has done to the device, unless the
callback of a rename has panicked.  An action that fails reports nothing. -/
def Recounts (s : DeviceState η ε) (act : Action (DeviceState η ε) Unit) :
    Prop :=
  ∃ result t, outcome act s = (result, t) ∧
    (RenamePanics result t ∨ ∃ changes, Tells s changes t) ∧
    ∀ e, result = .error (.error e) →
      t.manager.session.changes = s.manager.session.changes

namespace Recounts

variable {s t : DeviceState η ε} {act : Action (DeviceState η ε) Unit}
  {changes : List Change}

theorem of_ok (done : outcome act s = (.ok (), t))
    (tells : Tells s changes t) : Recounts s act :=
  ⟨_, t, done, Or.inr ⟨changes, tells⟩, fun _ failed => by cases failed⟩

theorem of_silent {result : Outcome Unit} (done : outcome act s = (result, t))
    (tells : Tells s [] t) : Recounts s act :=
  ⟨result, t, done, Or.inr ⟨[], tells⟩, fun _ _ => tells.unreported⟩

/-- What is recounted is the same after what says and changes nothing. -/
theorem of_outcome {other : Action (DeviceState η ε) Unit}
    (same : outcome act s = outcome other t) (recounts : Recounts t other)
    (tells : Tells s [] t) : Recounts s act := by
  obtain ⟨result, u, done, ended, failing⟩ := recounts
  refine ⟨result, u, same.trans done, ?_, fun e failed => ?_⟩
  · rcases ended with interrupted | ⟨changes, later⟩
    · exact Or.inl interrupted
    · exact Or.inr ⟨_, tells.trans later⟩
  · exact (failing e failed).trans tells.unreported

end Recounts

variable {backend : Backend η ε} {s t : DeviceState η ε}
  {rest : List (Device ε)}

theorem Undisturbed.tells (discreet : backend.Discreet)
    (undisturbed : Undisturbed backend rest s t) : Tells s [] t :=
  .silent (undisturbed.changes discreet)
    (congrArg Device.name undisturbed.device)
    (congrArg Device.standing undisturbed.device)

/-- A callback that panics is away from the device, of which nothing else
has changed. -/
theorem Interrupted.tells {observation : Observation}
    (discreet : backend.Discreet)
    (broken : Interrupted backend rest observation s t) : Tells s [] t := by
  refine .silent (broken.changes discreet) ?_ ?_
  · rw [broken.device, Device.name_setCallback]
  · rw [broken.device, Device.standing_setCallback]

/-- An observation that is new is noted and stored. -/
theorem tells_storing (coherent : s.device.Coherent)
    {observation : Observation} (heeds : Heeds s.device observation) :
    Tells s [observation.changeOf s.device] (storing s observation) :=
  .single (Session.changes_noting _ _) (s.device.name_store observation)
    (observation.due_changeOf coherent heeds.registered heeds.new)
    (s.device.standing_store observation)

/-- A notification reports what it stores, unless the callback of a rename
panics before that. -/
theorem Notified.tells (discreet : backend.Discreet)
    (coherent : s.device.Coherent) {observation : Observation}
    {result : Outcome Unit}
    (notified : Notified backend rest s observation result t) :
    RenamePanics result t ∨ ∃ changes, Tells s changes t := by
  cases notified with
  | ignored unregistered observation =>
    exact Or.inr ⟨[], .silent (Session.changes_noting_other rfl) rfl rfl⟩
  | known known => exact Or.inr ⟨[], .refl s⟩
  | @renamed name t heeds returned =>
    have device : t.device = s.device := returned.device
    refine Or.inr ⟨_, (tells_storing coherent heeds).trans
      (.silent (returned.changes discreet) ?_ ?_)⟩
    · exact congrArg (fun d => (d.store (.devName name)).name) device
    · exact congrArg (fun d => (d.store (.devName name)).standing) device
  | unrenamed heeds may broken =>
    exact Or.inl ⟨_, _, rfl, broken.called⟩
  | changed heeds returned =>
    exact Or.inr ⟨_, (tells_storing coherent heeds).trans
      (returned.tells discreet)⟩
  | broken heeds may broken =>
    exact Or.inr ⟨_, (tells_storing coherent heeds).trans
      (broken.tells discreet)⟩

theorem notify_recounts (answers : backend.Answers)
    (discreet : backend.Discreet)
    (sound : s.manager.Sound backend (s.device :: rest))
    (observation : Observation) : Recounts s (notify backend observation) := by
  obtain ⟨result, t, notifying, notified⟩ :=
    notify_notified answers sound observation
  have told := notified.tells discreet (sound.coherent _ List.mem_cons_self)
  refine ⟨result, t, notifying, told, fun e failed => ?_⟩
  rcases notified.ended with ⟨rfl, -⟩ | ⟨message, rfl, -⟩ <;> cases failed

theorem NotifiedInTurn.tells (discreet : backend.Discreet)
    {observations : List Observation} {result : Outcome Unit}
    (inTurn : NotifiedInTurn backend rest s observations result t)
    (sound : s.manager.Sound backend (s.device :: rest)) :
    RenamePanics result t ∨ ∃ changes, Tells s changes t := by
  induction inTurn with
  | done s => exact Or.inr ⟨[], .refl s⟩
  | next first others ih =>
    have coherent := sound.coherent _ List.mem_cons_self
    rcases first.tells discreet coherent with ⟨_, _, panicked, -⟩ | early
    · cases panicked
    · obtain ⟨changes, early⟩ := early
      rcases ih (first.advance sound).sound with panics | ⟨later, late⟩
      · exact Or.inl panics
      · exact Or.inr ⟨changes ++ later, early.trans late⟩
  | stopped first observations =>
    exact first.tells discreet (sound.coherent _ List.mem_cons_self)

/-- Notifications one after another recount what they change. -/
theorem forM_notify_recounts (answers : backend.Answers)
    (discreet : backend.Discreet)
    (sound : s.manager.Sound backend (s.device :: rest))
    (observations : List Observation) :
    Recounts s (observations.forM (notify backend)) := by
  obtain ⟨result, t, notifying, inTurn⟩ :=
    forM_notify_inTurn answers sound observations
  refine ⟨result, t, notifying, inTurn.tells discreet sound,
    fun e failed => ?_⟩
  rcases inTurn.ended with rfl | ⟨message, rfl, -⟩ <;> cases failed

/-- A refresh recounts what its notifications change. -/
theorem refresh_recounts (answers : backend.Answers)
    (discreet : backend.Discreet)
    (sound : s.manager.Sound backend (s.device :: rest)) :
    Recounts s (refresh backend) := by
  obtain ⟨queried, session, querying, sound', unreported, -⟩ :=
    Device.query_sound answers sound List.mem_cons_self
  let asked : DeviceState η ε :=
    { s with manager := s.manager.withSession session }
  have start : outcome (onManager (s.device.query backend)) s =
      (queried, asked) := by
    rw [outcome_onManager, querying]
  have silent : Tells s [] asked := .silent (unreported discreet) rfl rfl
  have houtcome := outcome_refresh backend s
  rw [outcome_bind, start] at houtcome
  rcases queried with f | ⟨devName, state⟩
  · exact .of_silent houtcome silent
  · exact .of_outcome houtcome
      (forM_notify_recounts answers discreet (s := asked) sound'
        [.devName devName, .upDown state.up, .mtu state.mtu]) silent

theorem configure_recounts {change : Device ε → Device ε}
    (name : (change s.device).name = s.device.name)
    (standing : s.device.context = none →
      (change s.device).standing = s.device.standing) :
    Recounts s (do
      ensureUnregistered
      changeDevice change) := by
  rcases unbound : s.device.context with _ | held
  · have unregistered := Device.isRegistered_eq_false unbound
    have done : outcome (do ensureUnregistered; changeDevice change) s =
        (.ok (), { s with device := change s.device }) := by
      simp [outcome_configure, unregistered]
    exact .of_silent done (.silent rfl name (standing unbound))
  · have registered := Device.isRegistered_eq_true unbound
    have refused : outcome (do ensureUnregistered; changeDevice change) s =
        (.error (.error (.alreadyRegistered s.device.name)), s) := by
      simp [outcome_configure, registered]
    exact .of_silent refused (.refl s)

theorem register_recounts (answers : backend.Answers)
    (discreet : backend.Discreet)
    (sound : s.manager.Sound backend (s.device :: rest)) :
    Recounts s (register backend) := by
  rcases hcontext : s.device.context with _ | held
  · rcases register_cases answers sound hcontext
      with ⟨context, devName, m, -, registering, -, -, remarks⟩ |
        ⟨e, m, failing, -, -, -, -, remarks⟩
    · have due := Device.standing_binding_eq_none hcontext
      have reported := Manager.changes_bound m s.device devName
      rw [Session.changes_eq_of_remarks_eq (remarks discreet)] at reported
      exact .of_ok registering (.single reported rfl due rfl)
    · refine .of_silent failing (.silent ?_ rfl rfl)
      rcases remarks discreet with same | ⟨cause, failed⟩
      · exact Session.changes_eq_of_remarks_eq same
      · simp [Session.changes_eq, failed, Notice.change?]
  · exact .of_silent
      (outcome_register_registered backend
        (Device.isRegistered_eq_true hcontext))
      (.refl s)

theorem unregister_recounts
    (sound : s.manager.Sound backend (s.device :: rest)) :
    Recounts s unregister := by
  rcases hcontext : s.device.context with _ | context
  · exact .of_silent (outcome_unregister_unbound hcontext) (.refl s)
  · obtain ⟨m, unregistering, -, -, remarks⟩ :=
      unregister_succeeds sound hcontext
    have due := Device.standing_binding_isSome
      (Device.isRegistered_eq_true hcontext)
    have reported : m.session.changes = s.manager.session.changes ++
        [(s.device.name, .unregistered)] := by
      simp [Session.changes_eq, remarks, Notice.change?]
    exact .of_ok unregistering (.single reported rfl due rfl)

theorem onInterface_recounts (discreet : backend.Discreet)
    {act : Device ε → Action (Manager η) Unit}
    {result : Outcome Unit} {session : Session η}
    (running : outcome (act s.device) s.manager =
      (result, s.manager.withSession session))
    (unreported : backend.Discreet →
      session.changes = s.manager.session.changes) :
    Recounts s (onInterface act) := by
  have done : outcome (onInterface act) s =
      (result, { s with manager := s.manager.withSession session }) := by
    simp [onInterface, outcome_bind, running]
  exact .of_silent done (.silent (unreported discreet) rfl rfl)

/-- What an operation reports tells what it has done to the device. -/
theorem perform_recounts (answers : backend.Answers)
    (discreet : backend.Discreet)
    (sound : s.manager.Sound backend (s.device :: rest))
    (operation : DeviceOperation ε) :
    Recounts s (perform backend operation) := by
  by_cases changing : operation.changesInterface = true
  · obtain ⟨name, act, harmless, same⟩ := perform_changing answers changing
    obtain ⟨result, session, running, -, unreported, -⟩ :=
      Device.onInterface_sound answers sound List.mem_cons_self name harmless
    rw [same]
    exact onInterface_recounts discreet running unreported
  · cases operation with
    | setIfindex ifindex =>
      refine configure_recounts rfl fun unbound => ?_
      simp [Device.standing, Device.isRegistered, unbound]
    | setNetns netns =>
      refine configure_recounts rfl fun unbound => ?_
      simp [Device.standing, Device.isRegistered, unbound]
    | setOwnerData data =>
      let t := { s with device := { s.device with ownerData := some data } }
      exact .of_silent (t := t) rfl (.silent rfl rfl rfl)
    | takeOwnerData =>
      let t := { s with device := { s.device with ownerData := none } }
      exact .of_silent (t := t) rfl (.silent rfl rfl rfl)
    | setCallback kind callback =>
      let t := { s with device := s.device.setCallback callback kind }
      exact .of_silent (t := t) rfl
        (.silent rfl (s.device.name_setCallback callback kind)
          (s.device.standing_setCallback callback kind))
    | register => exact register_recounts answers discreet sound
    | unregister => exact unregister_recounts sound
    | bringUpDown up => exact absurd rfl changing
    | addAddress address length => exact absurd rfl changing
    | addRoute destination length gateway => exact absurd rfl changing
    | refresh => exact refresh_recounts answers discreet sound
    | notify observation =>
      exact notify_recounts answers discreet sound observation

end DeviceState

end InterfaceManager

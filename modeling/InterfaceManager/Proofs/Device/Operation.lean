import InterfaceManager.Proofs.Device.Observation

/-!
# Operations keep the books

Every operation of a device advances its state: the books stay sound for it
and for all other devices, and it remains the same device.  An operation can
end with a panic only if it notifies the device and one of the callbacks of
the device panics.
-/

namespace InterfaceManager

open InterfaceManager.Action

/-- Whether an operation may call callbacks. -/
def DeviceOperation.observes : DeviceOperation ε → Bool
  | refresh | notify _ => true
  | _ => false

/-- The operation changes the interface of a device. -/
def DeviceOperation.changesInterface : DeviceOperation ε → Bool
  | bringUpDown _ | addAddress _ _ | addRoute _ _ _ => true
  | _ => false

namespace DeviceState

variable {backend : Backend η ε} {s : DeviceState η ε}
  {rest : List (Device ε)}

/-- How an operation may end: with sound books, and with a panic only if
that is allowed. -/
def Performed (backend : Backend η ε) (rest : List (Device ε))
    (s : DeviceState η ε) (mayPanic : String → Prop)
    (act : Action (DeviceState η ε) Unit) : Prop :=
  ∃ result t, outcome act s = (result, t) ∧ Advance backend rest s t ∧
    ∀ message, result = .error (.panic message) → mayPanic message

theorem Performed.of_ok {mayPanic : String → Prop}
    {act : Action (DeviceState η ε) Unit} {t : DeviceState η ε}
    (done : outcome act s = (.ok (), t)) (advance : Advance backend rest s t) :
    Performed backend rest s mayPanic act :=
  ⟨_, t, done, advance, fun _ panicked => by cases panicked⟩

theorem Performed.of_error {mayPanic : String → Prop}
    {act : Action (DeviceState η ε) Unit} {e : Error} {t : DeviceState η ε}
    (failed : outcome act s = (.error (.error e), t))
    (advance : Advance backend rest s t) :
    Performed backend rest s mayPanic act :=
  ⟨_, t, failed, advance, fun _ panicked => by cases panicked⟩

/-- Selecting another interface is refused or does not touch the books. -/
theorem configure_performed (mayPanic : String → Prop)
    (sound : s.manager.Sound backend (s.device :: rest))
    {change : Device ε → Device ε}
    (id : (change s.device).id = s.device.id)
    (name : (change s.device).name = s.device.name)
    (context : (change s.device).context = s.device.context)
    (coherent : s.device.Coherent → (change s.device).Coherent) :
    Performed backend rest s mayPanic (do
      ensureUnregistered
      changeDevice change) := by
  rcases unbound : s.device.context with _ | held
  · have unregistered := Device.isRegistered_eq_false unbound
    rw [unbound] at context
    have entry : (change s.device).entry = s.device.entry := by
      rw [Device.entry, Device.entry, Device.record_eq_none context,
        Device.record_eq_none unbound, id, name]
    refine .of_ok (t := { s with device := change s.device }) ?_
      (.change sound entry (context.trans unbound.symm)
        (coherent (sound.coherent _ List.mem_cons_self)))
    simp [outcome_configure, unregistered]
  · have registered := Device.isRegistered_eq_true unbound
    refine .of_error (e := .alreadyRegistered s.device.name) (t := s) ?_
      (.refl sound)
    simp [outcome_configure, registered]

theorem register_performed (answers : backend.Answers)
    (mayPanic : String → Prop)
    (sound : s.manager.Sound backend (s.device :: rest)) :
    Performed backend rest s mayPanic (register backend) := by
  rcases hcontext : s.device.context with _ | held
  · rcases register_cases answers sound hcontext
      with ⟨context, devName, m, -, registering, acquired, registry, remarks⟩ |
        ⟨e, m, failing, -, -, registry, sound', -⟩
    · have next : s.manager.registry.next = m.registry.next :=
        congrArg Registry.next registry.symm
      exact .of_ok registering
        ⟨sound.bound hcontext devName acquired registry remarks, rfl,
          Nat.le_of_eq next⟩
    · have next : s.manager.registry.next = m.registry.next :=
        congrArg Registry.next registry.symm
      exact .of_error failing ⟨sound', rfl, Nat.le_of_eq next⟩
  · exact .of_error
      (outcome_register_registered backend
        (Device.isRegistered_eq_true hcontext))
      (.refl sound)

theorem unregister_performed (mayPanic : String → Prop)
    (sound : s.manager.Sound backend (s.device :: rest)) :
    Performed backend rest s mayPanic unregister := by
  rcases hcontext : s.device.context with _ | context
  · exact .of_error (outcome_unregister_unbound hcontext) (.refl sound)
  · obtain ⟨m, unregistering, sound', registry, -⟩ :=
      unregister_succeeds sound hcontext
    refine .of_ok unregistering ⟨sound', rfl, ?_⟩
    rw [registry]
    exact Nat.le_refl _

/-! ## The interface -/

theorem onInterface_performed (mayPanic : String → Prop)
    {act : Device ε → Action (Manager η) Unit}
    {result : Outcome Unit} {session : Session η}
    (running : outcome (act s.device) s.manager =
      (result, s.manager.withSession session))
    (sound : (s.manager.withSession session).Sound backend (s.device :: rest))
    (answered : ∀ message, result ≠ .error (.panic message)) :
    Performed backend rest s mayPanic (onInterface act) := by
  refine ⟨result, { s with manager := s.manager.withSession session }, ?_,
    ⟨sound, rfl, Nat.le_refl _⟩, ?_⟩
  · simp [onInterface, outcome_bind, running]
  · intro message panicked
    exact absurd panicked (answered message)

/-- A change of the interface is something harmless inside the namespace of
the device. -/
theorem perform_changing (answers : backend.Answers)
    {operation : DeviceOperation ε}
    (changes : operation.changesInterface = true) :
    ∃ (name : String) (act : String → Action (Session η) Unit),
      (∀ devName, backend.Harmless (act devName)) ∧
      perform backend operation =
        onInterface fun device => device.onInterface backend name act := by
  cases operation with
  | bringUpDown up =>
    exact ⟨_, _, fun devName => Device.setUp_harmless answers devName up, rfl⟩
  | addAddress address length =>
    exact ⟨_, _, fun devName =>
      Device.addAddress_harmless answers devName address length, rfl⟩
  | addRoute destination length gateway =>
    exact ⟨_, _, fun devName =>
      Device.addRoute_harmless answers devName destination length gateway,
      rfl⟩
  | _ => cases changes

/-- Every operation keeps the books. -/
theorem perform_performed (answers : backend.Answers)
    (sound : s.manager.Sound backend (s.device :: rest))
    (operation : DeviceOperation ε) :
    Performed backend rest s
      (fun message =>
        operation.observes = true ∧ s.device.MayPanic message)
      (perform backend operation) := by
  have coherent := sound.coherent _ List.mem_cons_self
  by_cases changing : operation.changesInterface = true
  · obtain ⟨name, act, harmless, same⟩ := perform_changing answers changing
    obtain ⟨result, session, running, sound', -, answered⟩ :=
      Device.onInterface_sound answers sound List.mem_cons_self name harmless
    rw [same]
    exact onInterface_performed _ running sound' answered
  · cases operation with
    | setIfindex ifindex =>
      exact configure_performed _ sound rfl rfl rfl fun h =>
        ⟨h.named, h.forgotten⟩
    | setNetns netns =>
      exact configure_performed _ sound rfl rfl rfl fun h =>
        ⟨h.named, h.forgotten⟩
    | setOwnerData data =>
      let t := { s with device := { s.device with ownerData := some data } }
      exact .of_ok (t := t) rfl
        (.change sound rfl rfl ⟨coherent.named, coherent.forgotten⟩)
    | takeOwnerData =>
      let t := { s with device := { s.device with ownerData := none } }
      exact .of_ok (t := t) rfl
        (.change sound rfl rfl ⟨coherent.named, coherent.forgotten⟩)
    | setCallback kind callback =>
      let t := { s with device := s.device.setCallback callback kind }
      exact .of_ok (t := t) rfl
        (.change sound (s.device.setCallback_entry callback kind)
          (s.device.setCallback_context callback kind)
          (coherent.setCallback callback kind))
    | register => exact register_performed answers _ sound
    | unregister => exact unregister_performed _ sound
    | bringUpDown up => exact absurd rfl changing
    | addAddress address length => exact absurd rfl changing
    | addRoute destination length gateway => exact absurd rfl changing
    | refresh =>
      obtain ⟨result, t, refreshing, advance, may⟩ :=
        refresh_advance answers sound
      exact ⟨result, t, refreshing, advance, fun message panicked =>
        ⟨rfl, may message panicked⟩⟩
    | notify observation =>
      obtain ⟨result, t, notifying, notified⟩ :=
        notify_notified answers sound observation
      refine ⟨result, t, notifying, notified.advance sound, ?_⟩
      rintro message rfl
      rcases notified.ended with ⟨returned, -⟩ | ⟨message, panicked, may⟩
      · cases returned
      · cases panicked
        exact ⟨rfl, may⟩

end DeviceState

end InterfaceManager

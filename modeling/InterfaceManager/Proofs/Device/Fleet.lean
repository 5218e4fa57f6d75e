import InterfaceManager.Proofs.Device.Operation
import InterfaceManager.Proofs.Labelled

/-!
# Runs of fleets keep the books

A fleet is sound if its manager keeps the books for exactly the devices that
are live, each under its own label.  Every step leads from a sound fleet to
a sound fleet, so every run does.  Devices come and go, but their identities
are handed out in increasing order and none is used twice.
-/

namespace InterfaceManager

open InterfaceManager.Action

namespace Fleet

def live (f : Fleet η ε) : List (Device ε) := f.devices.map Prod.snd

/-- The live devices that are not under a label. -/
def others (f : Fleet η ε) (label : String) : List (Device ε) :=
  (f.devices.without label).map Prod.snd

/-- The books are kept for the live devices. -/
structure Sound (backend : Backend η ε) (f : Fleet η ε) : Prop where
  labels : (f.devices.map Prod.fst).Nodup
  books : f.manager.Sound backend f.live

variable {backend : Backend η ε} {f : Fleet η ε} {label : String}
  {device : Device ε}

theorem sound_start (backend : Backend η ε) (host : η) :
    (start host : Fleet η ε).Sound backend where
  labels := List.nodup_nil
  books := Manager.sound_start backend host

theorem live_perm (sound : f.Sound backend)
    (found : f.devices.at? label = some device) :
    f.live.Perm (device :: f.others label) :=
  (Labelled.perm_of_at? sound.labels found).map Prod.snd

theorem others_of_at?_eq_none (missing : f.devices.at? label = none) :
    f.others label = f.live := by
  rw [others, Labelled.without_of_at?_eq_none missing, live]

/-- The books of a sound fleet, seen from one device. -/
theorem Sound.select (sound : f.Sound backend)
    (found : f.devices.at? label = some device) :
    f.manager.Sound backend (device :: f.others label) :=
  sound.books.of_perm (live_perm sound found)

/-! ## Steps -/

@[simp] theorem outcome_onManager
    (act : Action (Manager η) α) (f : Fleet η ε) :
    outcome (onManager act) f =
      ((outcome act f.manager).1,
        { f with manager := (outcome act f.manager).2 }) := by
  simp [onManager]

theorem run_append (backend : Backend η ε) (f : Fleet η ε)
    (steps more : List (FleetStep ε)) :
    run backend f (steps ++ more) = run backend (run backend f steps) more :=
  List.foldl_append

/-- The fleet when the device under `label` is worked on. -/
def working (f : Fleet η ε) (device : Device ε) : DeviceState η ε :=
  ⟨f.manager, device, f.reports⟩

/-- The fleet after the device under `label` has been worked on. -/
def worked (f : Fleet η ε) (label : String) (s : DeviceState η ε) :
    Fleet η ε where
  manager := s.manager
  devices := f.devices.put label s.device
  reports := s.reports

/-- Work that leaves the device as it is leaves all devices as they are. -/
theorem at?_worked_of_eq (found : f.devices.at? label = some device)
    {s : DeviceState η ε} (same : s.device = device) (other : String) :
    (f.worked label s).devices.at? other = f.devices.at? other := by
  rw [worked, same]
  exact Labelled.at?_put_self found other

theorem outcome_step_operate (found : f.devices.at? label = some device)
    (operation : DeviceOperation ε) :
    outcome (step backend (.operate label operation)) f =
      let done := outcome (DeviceState.perform backend operation)
        (f.working device)
      (done.1, f.worked label done.2) := by
  simp [step, outcome_bind, found, onDevice, working, worked]

theorem outcome_step_missing (missing : f.devices.at? label = none)
    (operation : DeviceOperation ε) :
    outcome (step backend (.operate label operation)) f = (.ok (), f) := by
  simp [step, outcome_bind, missing]

theorem outcome_step_free (found : f.devices.at? label = some device)
    {m : Manager η}
    (freeing : outcome (Manager.free device) f.manager = (.ok (), m)) :
    outcome (step backend (.free label)) f =
      (.ok (), { f with
        manager := m, devices := f.devices.without label }) := by
  simp [step, outcome_bind, found, freeing]

theorem outcome_step_free_missing (missing : f.devices.at? label = none) :
    outcome (step backend (.free label)) f = (.ok (), f) := by
  simp [step, outcome_bind, missing]

def nextDevice (f : Fleet η ε) (name : String) : Device ε :=
  .fresh ⟨f.manager.registry.next⟩ name

/-- The new device takes the place of the one under the label, which is freed
after that. -/
theorem outcome_step_allocate_freeing (label name : String)
    (f : Fleet η ε) :
    outcome (step backend (.allocate label name)) f =
      outcome
        (match f.devices.at? label with
          | some old => onManager (Manager.free old)
          | none => pure ())
        { f with
          manager := f.manager.allocated name
          devices := f.devices.put label (f.nextDevice name) } := by
  simp only [step, outcome_bind, outcome_onManager, Manager.outcome_allocate,
    outcome_get, outcome_modify]
  rfl

theorem outcome_step_allocate (missing : f.devices.at? label = none)
    (name : String) :
    outcome (step backend (.allocate label name)) f =
      (.ok (), { f with
        manager := f.manager.allocated name
        devices := f.devices.put label (f.nextDevice name) }) := by
  rw [outcome_step_allocate_freeing, missing]
  rfl

/-- Another device under the label is freed. -/
theorem outcome_step_allocate_again
    (found : f.devices.at? label = some device) {name : String}
    {m : Manager η}
    (freeing : outcome (Manager.free device) (f.manager.allocated name) =
      (.ok (), m)) :
    outcome (step backend (.allocate label name)) f =
      (.ok (), { f with
        manager := m
        devices := f.devices.put label (f.nextDevice name) }) := by
  simp [outcome_step_allocate_freeing, found, freeing]

theorem outcome_step_adjust (change : ε) (f : Fleet η ε) :
    outcome (step backend (.adjust change)) f =
      (.ok (), { f with
        manager := f.manager.withSession
          { f.manager.session with
            host := backend.adjust f.manager.session.host change } }) := by
  simp [step]

/-- Devices take no notice of what happens to the host. -/
theorem devices_run_adjust (backend : Backend η ε) (f : Fleet η ε)
    (change : ε) : (run backend f [.adjust change]).devices = f.devices := by
  rw [run, List.foldl_cons, List.foldl_nil, outcome_step_adjust]

/-! ## What a step leaves -/

/-- The identities of the devices that a step allocates for good. -/
def newIds (backend : Backend η ε) (f : Fleet η ε) :
    FleetStep ε → List DeviceId
  | .allocate label name =>
    let after := (outcome (step backend (.allocate label name)) f).2
    ((after.devices.at? label).map Device.id).toList
  | _ => []

/-- The only way in which a step panics: it notifies a device, one of whose
callbacks does. -/
def MayPanic (f : Fleet η ε) (s : FleetStep ε) (message : String) : Prop :=
  ∃ label operation device, s = .operate label operation ∧
    f.devices.at? label = some device ∧ operation.observes = true ∧
    device.MayPanic message

/-- From `f` to `g` a step has been made that gave devices the identities
`new`. -/
structure Follows (backend : Backend η ε) (f : Fleet η ε)
    (new : List DeviceId) (g : Fleet η ε) : Prop where
  sound : g.Sound backend
  next : f.manager.registry.next ≤ g.manager.registry.next
  later : ∀ id ∈ new, f.manager.registry.next ≤ id.number ∧
    id.number < g.manager.registry.next
  ordered : new.Pairwise fun a b => a.number < b.number
  known : ∀ d ∈ g.live, d.id ∈ new ∨ ∃ e ∈ f.live, e.id = d.id

/-- A step that allocates nothing, where the live devices stay or go. -/
theorem Follows.of_subset {g : Fleet η ε} (sound : g.Sound backend)
    (next : f.manager.registry.next ≤ g.manager.registry.next)
    (known : ∀ d ∈ g.live, ∃ e ∈ f.live, e.id = d.id) :
    f.Follows backend [] g where
  sound := sound
  next := next
  later := by
    intro id hid
    cases hid
  ordered := .nil
  known := fun d hd => Or.inr (known d hd)

theorem Follows.refl (sound : f.Sound backend) : f.Follows backend [] f :=
  .of_subset sound (Nat.le_refl _) fun d hd => ⟨d, hd, rfl⟩

theorem mem_live_of_mem_others {d : Device ε} (hd : d ∈ f.others label) :
    d ∈ f.live := by
  obtain ⟨entry, hentry, rfl⟩ := List.mem_map.mp hd
  exact List.mem_map.mpr ⟨entry, (List.mem_filter.mp hentry).1, rfl⟩

/-- The device under a label, worked on, leaves the others as they are. -/
theorem Sound.operate (answers : backend.Answers) (sound : f.Sound backend)
    (found : f.devices.at? label = some device)
    (operation : DeviceOperation ε) :
    ∃ result g,
      outcome (step backend (.operate label operation)) f = (result, g) ∧
      f.Follows backend [] g ∧
      ∀ message, result = .error (.panic message) →
        operation.observes = true ∧ device.MayPanic message := by
  have books : (f.working device).manager.Sound backend
      ((f.working device).device :: f.others label) := sound.select found
  obtain ⟨result, t, performing, advance, may⟩ :=
    DeviceState.perform_performed answers books operation
  refine ⟨result, f.worked label t, ?_, .of_subset ⟨?_, advance.sound⟩
    advance.next ?_, may⟩
  · rw [outcome_step_operate found, performing]
  · exact Labelled.nodup_put sound.labels label t.device
  · intro d hd
    rcases List.mem_cons.mp hd with rfl | other
    · refine ⟨device, ?_, advance.id.symm⟩
      exact (live_perm sound found).mem_iff.mpr List.mem_cons_self
    · exact ⟨d, mem_live_of_mem_others other, rfl⟩

theorem Sound.free (sound : f.Sound backend)
    (found : f.devices.at? label = some device) :
    ∃ g, outcome (step backend (.free label)) f = (.ok (), g) ∧
      f.Follows backend [] g := by
  obtain ⟨m, freeing, books, next, -⟩ :=
    Manager.free_succeeds (sound.select found)
  refine ⟨_, outcome_step_free found freeing, .of_subset
    ⟨Labelled.nodup_without sound.labels label, books⟩ (Nat.le_of_eq next.symm)
    fun d hd => ⟨d, mem_live_of_mem_others hd, rfl⟩⟩

/-- An allocation adds the device with the next identity. -/
theorem Sound.allocate (sound : f.Sound backend) (label name : String) :
    ∃ g, outcome (step backend (.allocate label name)) f = (.ok (), g) ∧
      g.devices.at? label = some (f.nextDevice name) ∧
      f.Follows backend [(f.nextDevice name).id] g := by
  have follows : ∀ m : Manager η,
      m.Sound backend (f.nextDevice name :: f.others label) →
      m.registry.next = f.manager.registry.next + 1 →
      f.Follows backend [(f.nextDevice name).id]
        { f with
          manager := m
          devices := f.devices.put label (f.nextDevice name) } := by
    intro m books next
    refine ⟨⟨Labelled.nodup_put sound.labels label _, books⟩, ?_, ?_,
      List.pairwise_singleton _ _, ?_⟩
    · exact next ▸ Nat.le_succ _
    · intro id hid
      rw [List.mem_singleton] at hid
      subst hid
      exact ⟨Nat.le_refl _, next ▸ Nat.lt_succ_self _⟩
    · intro d hd
      rcases List.mem_cons.mp hd with rfl | other
      · exact Or.inl (List.mem_singleton_self _)
      · exact Or.inr ⟨d, mem_live_of_mem_others other, rfl⟩
  rcases found : f.devices.at? label with _ | old
  · refine ⟨_, outcome_step_allocate found name, Labelled.at?_put _ _ _, ?_⟩
    refine follows _ ?_ rfl
    have books := sound.books.allocate name
    rw [← others_of_at?_eq_none found] at books
    exact books
  · have books : (f.manager.allocated name).Sound backend
        (old :: f.nextDevice name :: f.others label) :=
      ((sound.select found).allocate name).of_perm (.swap _ _ _)
    obtain ⟨m, freeing, books', next, -⟩ := Manager.free_succeeds books
    exact ⟨_, outcome_step_allocate_again found freeing,
      Labelled.at?_put _ _ _, follows m books' next⟩

/-- An allocation always succeeds, and the device under the label is a new
one. -/
theorem Sound.outcome_allocate (sound : f.Sound backend)
    (label name : String) :
    ∃ m, outcome (step backend (.allocate label name)) f =
      (.ok (), { f with
        manager := m
        devices := f.devices.put label (f.nextDevice name) }) := by
  rcases found : f.devices.at? label with _ | old
  · exact ⟨_, outcome_step_allocate found name⟩
  · have books : (f.manager.allocated name).Sound backend
        (old :: f.nextDevice name :: f.others label) :=
      ((sound.select found).allocate name).of_perm (.swap _ _ _)
    obtain ⟨m, freeing, -⟩ := Manager.free_succeeds books
    exact ⟨m, outcome_step_allocate_again found freeing⟩

/-- Every step leads from a sound fleet to a sound fleet, and ends with a
panic only if a callback does. -/
theorem step_follows (answers : backend.Answers) (sound : f.Sound backend)
    (s : FleetStep ε) :
    ∃ result g, outcome (step backend s) f = (result, g) ∧
      f.Follows backend (newIds backend f s) g ∧
      ∀ message, result = .error (.panic message) → f.MayPanic s message := by
  cases s with
  | allocate label name =>
    obtain ⟨g, allocating, found, follows⟩ := sound.allocate label name
    have new : newIds backend f (.allocate label name) =
        [(f.nextDevice name).id] := by
      simp [newIds, allocating, found]
    rw [new]
    exact ⟨_, g, allocating, follows, fun _ panicked => by cases panicked⟩
  | free label =>
    rcases found : f.devices.at? label with _ | device
    · exact ⟨_, f, outcome_step_free_missing found, .refl sound,
        fun _ panicked => by cases panicked⟩
    · obtain ⟨g, freeing, follows⟩ := sound.free found
      exact ⟨_, g, freeing, follows, fun _ panicked => by cases panicked⟩
  | operate label operation =>
    rcases found : f.devices.at? label with _ | device
    · exact ⟨_, f, outcome_step_missing found operation, .refl sound,
        fun _ panicked => by cases panicked⟩
    · obtain ⟨result, g, operating, follows, may⟩ :=
        sound.operate answers found operation
      refine ⟨result, g, operating, follows, fun message panicked => ?_⟩
      obtain ⟨observes, mayPanic⟩ := may message panicked
      exact ⟨label, operation, device, rfl, found, observes, mayPanic⟩
  | adjust change =>
    have books := sound.books.withSession
      (t := { f.manager.session with
        host := backend.adjust f.manager.session.host change })
      sound.books.unrefused
    exact ⟨_, _, outcome_step_adjust change f,
      .of_subset ⟨sound.labels, books⟩ (Nat.le_refl _)
        fun d hd => ⟨d, hd, rfl⟩,
      fun _ panicked => by cases panicked⟩

/-- The identities of the devices that the steps of a run allocate for good,
in the order of the steps. -/
def allocatedIds (backend : Backend η ε) (f : Fleet η ε) :
    List (FleetStep ε) → List DeviceId
  | [] => []
  | s :: steps =>
    newIds backend f s ++
      allocatedIds backend (outcome (step backend s) f).2 steps

theorem run_cons (f : Fleet η ε) (s : FleetStep ε)
    (steps : List (FleetStep ε)) :
    run backend f (s :: steps) =
      run backend (outcome (step backend s) f).2 steps := rfl

/-- Every run leads from a sound fleet to a sound fleet. -/
theorem run_follows (answers : backend.Answers) (sound : f.Sound backend)
    (steps : List (FleetStep ε)) :
    f.Follows backend (allocatedIds backend f steps) (run backend f steps) := by
  induction steps generalizing f with
  | nil => exact .refl sound
  | cons s steps ih =>
    obtain ⟨result, g, stepping, first, -⟩ := step_follows answers sound s
    have rest := ih first.sound
    rw [run_cons, allocatedIds, stepping]
    refine ⟨rest.sound, Nat.le_trans first.next rest.next, ?_, ?_, ?_⟩
    · intro id hid
      rcases List.mem_append.mp hid with early | late
      · have bounds := first.later id early
        exact ⟨bounds.1, Nat.lt_of_lt_of_le bounds.2 rest.next⟩
      · have bounds := rest.later id late
        exact ⟨Nat.le_trans first.next bounds.1, bounds.2⟩
    · rw [List.pairwise_append]
      refine ⟨first.ordered, rest.ordered, fun a ha b hb => ?_⟩
      exact Nat.lt_of_lt_of_le (first.later a ha).2 (rest.later b hb).1
    · intro d hd
      rcases rest.known d hd with late | ⟨e, he, hid⟩
      · exact Or.inl (List.mem_append_right _ late)
      · rcases first.known e he with early | ⟨e', he', hid'⟩
        · rw [hid] at early
          exact Or.inl (List.mem_append_left _ early)
        · exact Or.inr ⟨e', he', hid'.trans hid⟩

end Fleet

end InterfaceManager

import InterfaceManager.Proofs.Device.Agreement
import InterfaceManager.Proofs.Device.Standing

/-!
# The history of a run

What the steps of a run report is announced for the devices that the steps
are about.  From the announcements alone it can be told, after every step,
which devices are registered, where, and what has been observed there.
-/

namespace InterfaceManager

open InterfaceManager.Action

/-- A change reported of a device, which is called `device`. -/
structure Announcement where
  id : DeviceId
  device : String
  change : Change
  deriving DecidableEq, Repr

/-- The changes announced of the device with an identity. -/
def changesOf (id : DeviceId) (told : List Announcement) : List Change :=
  told.filterMap fun a => if a.id = id then some a.change else none

theorem changesOf_append (id : DeviceId) (early late : List Announcement) :
    changesOf id (early ++ late) = changesOf id early ++ changesOf id late :=
  List.filterMap_append

def Device.announcing (d : Device ε) (changes : List Change) :
    List Announcement :=
  changes.map fun change => ⟨d.id, d.name, change⟩

theorem changesOf_announcing_self (d : Device ε) (changes : List Change) :
    changesOf d.id (d.announcing changes) = changes := by
  simp [changesOf, Device.announcing, List.filterMap_map]

theorem changesOf_announcing_other {d : Device ε} {id : DeviceId}
    (other : d.id ≠ id) (changes : List Change) :
    changesOf id (d.announcing changes) = [] := by
  simp [changesOf, Device.announcing, List.filterMap_map, other]

/-! ## Standings among devices -/

/-- What should be known of an identity among devices: the standing of its
device, or nothing if there is none. -/
def Stands (devices : List (Device ε)) (id : DeviceId)
    (standing : Standing) : Prop :=
  (∃ d ∈ devices, d.id = id ∧ d.standing = standing) ∨
    (∀ d ∈ devices, d.id ≠ id) ∧ standing = .unbound

namespace Stands

variable {devices others : List (Device ε)} {d t : Device ε}
  {id : DeviceId} {standing : Standing} {changes : List Change}

theorem of_perm (stands : Stands devices id standing)
    (perm : devices.Perm others) : Stands others id standing := by
  rcases stands with ⟨d, hd, here⟩ | ⟨missing, unbound⟩
  · exact Or.inl ⟨d, perm.mem_iff.mp hd, here⟩
  · exact Or.inr ⟨fun d hd => missing d (perm.mem_iff.mpr hd), unbound⟩

/-- A new device of which nothing is known changes nothing. -/
theorem add (stands : Stands devices id standing)
    (new : ∀ e ∈ devices, e.id ≠ d.id) (unbound : d.standing = .unbound) :
    Stands (d :: devices) id standing := by
  rcases stands with ⟨e, he, here⟩ | ⟨missing, nothing⟩
  · exact Or.inl ⟨e, List.mem_cons_of_mem d he, here⟩
  · by_cases same : d.id = id
    · exact Or.inl ⟨d, List.mem_cons_self, same, unbound.trans nothing.symm⟩
    · refine Or.inr ⟨fun e he => ?_, nothing⟩
      rcases List.mem_cons.mp he with rfl | old
      · exact same
      · exact missing e old

section Apart

variable (apart : ∀ e ∈ others, e.id ≠ d.id)

include apart

theorem eq_standing (stands : Stands (d :: others) d.id standing) :
    standing = d.standing := by
  rcases stands with ⟨e, he, same, rfl⟩ | ⟨missing, -⟩
  · rcases List.mem_cons.mp he with rfl | old
    · rfl
    · exact absurd same (apart e old)
  · exact absurd rfl (missing d List.mem_cons_self)

/-- An identity of another device does not depend on this one. -/
theorem of_other (stands : Stands (d :: others) id standing)
    (other : d.id ≠ id) : Stands others id standing := by
  rcases stands with ⟨e, he, same, here⟩ | ⟨missing, unbound⟩
  · rcases List.mem_cons.mp he with rfl | old
    · exact absurd same other
    · exact Or.inl ⟨e, old, same, here⟩
  · exact Or.inr ⟨fun e he => missing e (List.mem_cons_of_mem d he), unbound⟩

/-- What is announced of a device is in order for every identity. -/
theorem orderly (stands : Stands (d :: others) id standing)
    (inOrder : Orderly d.standing changes) :
    Orderly standing (changesOf id (d.announcing changes)) := by
  by_cases same : d.id = id
  · subst same
    rw [changesOf_announcing_self, eq_standing apart stands]
    exact inOrder
  · rw [changesOf_announcing_other same]
    trivial

/-- A device changes as has been announced. -/
theorem replace (stands : Stands (d :: others) id standing)
    (sameId : t.id = d.id)
    (changed : t.standing = d.standing.following changes) :
    Stands (t :: others) id
      (standing.following (changesOf id (d.announcing changes))) := by
  by_cases same : d.id = id
  · subst same
    rw [changesOf_announcing_self, eq_standing apart stands]
    exact Or.inl ⟨t, List.mem_cons_self, sameId, changed⟩
  · rw [changesOf_announcing_other same, Standing.following_nil]
    rcases of_other apart stands same with ⟨e, he, here⟩ | ⟨missing, unbound⟩
    · exact Or.inl ⟨e, List.mem_cons_of_mem t he, here⟩
    · refine Or.inr ⟨fun e he => ?_, unbound⟩
      rcases List.mem_cons.mp he with rfl | old
      · exact sameId.trans_ne same
      · exact missing e old

/-- A device is gone once its end has been announced. -/
theorem remove (stands : Stands (d :: others) id standing)
    (ended : d.standing.following changes = .unbound) :
    Stands others id
      (standing.following (changesOf id (d.announcing changes))) := by
  by_cases same : d.id = id
  · subst same
    rw [changesOf_announcing_self, eq_standing apart stands]
    exact Or.inr ⟨apart, ended⟩
  · rw [changesOf_announcing_other same]
    exact of_other apart stands same

end Apart
end Stands

namespace Manager.Sound

variable {backend : Backend η ε} {m : Manager η} {d : Device ε}
  {devices others : List (Device ε)}

/-- The other devices have other identities. -/
theorem apart (sound : m.Sound backend (d :: others)) :
    ∀ e ∈ others, e.id ≠ d.id := by
  intro e he
  exact sound.listed.ne_of_mem (List.mem_map_of_mem he)

theorem id_lt_next (sound : m.Sound backend devices) (hd : d ∈ devices) :
    d.id.number < m.registry.next :=
  sound.listed.given d.id <|
    sound.listed.mem_ids_iff.mpr ⟨d.record, List.mem_map_of_mem hd⟩

/-- The next identity has not been handed out. -/
theorem next_apart (sound : m.Sound backend devices) :
    ∀ e ∈ devices, e.id ≠ ⟨m.registry.next⟩ := by
  intro e he same
  have given := sound.id_lt_next he
  rw [same] at given
  exact Nat.lt_irrefl _ given

/-- Each device stands as it is. -/
theorem standing_eq (sound : m.Sound backend devices) (hd : d ∈ devices)
    {standing : Standing} (stands : Stands devices d.id standing) :
    standing = d.standing := by
  rcases stands with ⟨e, he, same, rfl⟩ | ⟨missing, -⟩
  · have nodup : (devices.map Device.id).Nodup := by
      have distinct := sound.listed.nodup
      rw [List.map_map] at distinct
      exact distinct
    rw [List.inj_on_of_nodup_map nodup he hd same]
  · exact absurd rfl (missing d hd)

end Manager.Sound

namespace Fleet

/-! ## Steps -/

/-- The device that a step is about: the one that is worked on or freed. -/
def concerned? (f : Fleet η ε) : FleetStep ε → Option (Device ε)
  | .allocate label _ | .free label | .operate label _ => f.devices.at? label
  | .adjust _ => none

section

variable (backend : Backend η ε)

/-- The changes that a step reports, with the names of the devices. -/
def reported (f : Fleet η ε) (s : FleetStep ε) : List (String × Change) :=
  (outcome (step backend s) f).2.manager.session.changes.drop
    f.manager.session.changes.length

/-- The changes that a step reports, announced for the device that the step
is about. -/
def announced (f : Fleet η ε) (s : FleetStep ε) : List Announcement :=
  match f.concerned? s with
  | none => []
  | some d => (reported backend f s).map fun r => ⟨d.id, r.1, r.2⟩

/-- The announcements of a run, oldest first. -/
def history (f : Fleet η ε) : List (FleetStep ε) → List Announcement
  | [] => []
  | s :: steps =>
    announced backend f s ++
      history (outcome (step backend s) f).2 steps

/-- The new name whose callback has ended the step with a panic, if that is
what has happened. -/
def panickedRename (f : Fleet η ε) (s : FleetStep ε) : Option String :=
  match outcome (step backend s) f with
  | (.error (.panic _), g) =>
    match (Report.calls g.reports).getLast? with
    | some (.devName name) => some name
    | _ => none
  | _ => none

/-- No callback of a rename panics in a run. -/
def RenamesReturn (f : Fleet η ε) : List (FleetStep ε) → Prop
  | [] => True
  | s :: steps =>
    panickedRename backend f s = none ∧
      RenamesReturn (outcome (step backend s) f).2 steps

instance decidableRenamesReturn :
    (f : Fleet η ε) → (steps : List (FleetStep ε)) →
      Decidable (RenamesReturn backend f steps)
  | _, [] => .isTrue trivial
  | f, s :: steps =>
    have := decidableRenamesReturn (outcome (step backend s) f).2 steps
    inferInstanceAs (Decidable (panickedRename backend f s = none ∧
      RenamesReturn backend (outcome (step backend s) f).2 steps))

end

/-- From `f` to `g` the announcements are all that has been reported, and
they tell of every device, past or present, what has become of it. -/
structure Announces (f : Fleet η ε) (told : List Announcement)
    (g : Fleet η ε) : Prop where
  complete : g.manager.session.changes =
    f.manager.session.changes ++ told.map fun a => (a.device, a.change)
  stands : ∀ id standing, Stands f.live id standing →
    Orderly standing (changesOf id told) ∧
      Stands g.live id (standing.following (changesOf id told))

namespace Announces

variable {f g h : Fleet η ε} {early late : List Announcement}

/-- Nothing has been reported. -/
theorem silent (same : g.manager.session.changes = f.manager.session.changes)
    (stands : ∀ id standing, Stands f.live id standing →
      Stands g.live id standing) : Announces f [] g where
  complete := by
    rw [List.map_nil, List.append_nil]
    exact same
  stands := fun id standing before => ⟨trivial, stands id standing before⟩

theorem refl (f : Fleet η ε) : Announces f [] f :=
  silent rfl fun _ _ before => before

theorem trans (first : Announces f early g) (second : Announces g late h) :
    Announces f (early ++ late) h where
  complete := by
    rw [second.complete, first.complete, List.map_append, List.append_assoc]
  stands := by
    intro id standing before
    obtain ⟨orderly, between⟩ := first.stands id standing before
    obtain ⟨orderly', after⟩ := second.stands id _ between
    rw [changesOf_append, Standing.following_append]
    exact ⟨orderly.append orderly', after⟩

end Announces

variable {backend : Backend η ε} {f g : Fleet η ε} {d : Device ε}
  {label : String} {s : FleetStep ε} {changes : List Change}

/-- The reports of a step are the end of all reports. -/
theorem reported_eq (stepping : (outcome (step backend s) f).2 = g)
    {new : List (String × Change)}
    (grown : g.manager.session.changes =
      f.manager.session.changes ++ new) :
    reported backend f s = new := by
  rw [reported, stepping, grown, List.drop_left]

/-- The reports of a step are announced for the device they name. -/
theorem announced_eq (concerns : f.concerned? s = some d)
    (stepping : (outcome (step backend s) f).2 = g)
    (grown : g.manager.session.changes =
      f.manager.session.changes ++
        changes.map fun change => (d.name, change)) :
    announced backend f s = d.announcing changes := by
  rw [announced, concerns]
  dsimp only
  rw [reported_eq stepping grown, List.map_map]
  rfl

/-- A step without a device that it is about reports nothing. -/
theorem announces_nothing (concerns : f.concerned? s = none)
    (stepping : (outcome (step backend s) f).2 = g)
    (same : g.manager.session.changes = f.manager.session.changes)
    (stands : ∀ id standing, Stands f.live id standing →
      Stands g.live id standing) :
    Announces f (announced backend f s) (outcome (step backend s) f).2 := by
  rw [announced, concerns, stepping]
  exact .silent same stands

/-- A step that changes the device it is about. -/
theorem announces_changes (concerns : f.concerned? s = some d)
    (stepping : (outcome (step backend s) f).2 = g)
    (grown : g.manager.session.changes =
      f.manager.session.changes ++
        changes.map fun change => (d.name, change))
    (stands : ∀ id standing, Stands f.live id standing →
      Orderly standing (changesOf id (d.announcing changes)) ∧
        Stands g.live id
          (standing.following (changesOf id (d.announcing changes)))) :
    Announces f (announced backend f s) (outcome (step backend s) f).2 := by
  rw [announced_eq concerns stepping grown, stepping]
  refine ⟨?_, stands⟩
  rw [grown, Device.announcing, List.map_map]
  rfl

/-- What freeing a device reports comes in order. -/
theorem orderly_farewell (d : Device ε) : Orderly d.standing d.farewell := by
  rcases hcontext : d.context with _ | context
  · rw [Device.farewell_eq_nil hcontext]
    trivial
  · rw [Device.farewell_eq_singleton hcontext]
    exact ⟨Device.standing_binding_isSome
      (Device.isRegistered_eq_true hcontext), trivial⟩

theorem nextDevice_standing (f : Fleet η ε) (name : String) :
    (f.nextDevice name).standing = .unbound := rfl

/-- The end of a device is announced when it is freed. -/
theorem announces_free (sound : f.Sound backend)
    (found : f.devices.at? label = some d) :
    announced backend f (.free label) = d.announcing d.farewell ∧
    Announces f (announced backend f (.free label))
      (outcome (step backend (.free label)) f).2 := by
  have books := sound.select found
  have coherent := books.coherent d List.mem_cons_self
  obtain ⟨m, freeing, -, -, grown⟩ := Manager.free_succeeds books
  have stepping : (outcome (step backend (.free label)) f).2 = _ :=
    congrArg Prod.snd (outcome_step_free found freeing)
  refine ⟨announced_eq found stepping grown,
    announces_changes found stepping grown fun id standing stands => ?_⟩
  have selected := stands.of_perm (live_perm sound found)
  exact ⟨selected.orderly books.apart (orderly_farewell d),
    selected.remove books.apart coherent.following_farewell⟩

/-- The end of a device is announced when another one takes its label. -/
theorem announces_allocate (sound : f.Sound backend)
    (found : f.devices.at? label = some d) (name : String) :
    announced backend f (.allocate label name) = d.announcing d.farewell ∧
    Announces f (announced backend f (.allocate label name))
      (outcome (step backend (.allocate label name)) f).2 := by
  have books := sound.select found
  have coherent := books.coherent d List.mem_cons_self
  have after : (f.manager.allocated name).Sound backend
      (d :: f.nextDevice name :: f.others label) :=
    (books.allocate name).of_perm (.swap _ _ _)
  obtain ⟨m, freeing, -, -, grown⟩ := Manager.free_succeeds after
  rw [Manager.changes_allocated] at grown
  have stepping : (outcome (step backend (.allocate label name)) f).2 = _ :=
    congrArg Prod.snd (outcome_step_allocate_again found freeing)
  refine ⟨announced_eq found stepping grown,
    announces_changes found stepping grown fun id standing stands => ?_⟩
  have selected := stands.of_perm (live_perm sound found)
  refine ⟨selected.orderly books.apart (orderly_farewell d), ?_⟩
  refine (selected.remove books.apart coherent.following_farewell).add ?_
    (f.nextDevice_standing name)
  intro e he
  exact books.next_apart e (List.mem_cons_of_mem d he)

/-- A step in which the callback of a rename panics says so. -/
theorem panickedRename_operate {operation : DeviceOperation ε}
    (found : f.devices.at? label = some d) {result : Outcome Unit}
    {t : DeviceState η ε}
    (performing : outcome (DeviceState.perform backend operation)
      (f.working d) = (result, t))
    (panics : DeviceState.RenamePanics result t) :
    panickedRename backend f (.operate label operation) ≠ none := by
  obtain ⟨message, name, rfl, called⟩ := panics
  rw [panickedRename, outcome_step_operate found, performing]
  simp [worked, called]

/-- What an operation changes of its device is announced. -/
theorem announces_operate (answers : backend.Answers)
    (discreet : backend.Discreet) (sound : f.Sound backend)
    (found : f.devices.at? label = some d) (operation : DeviceOperation ε)
    (returns : panickedRename backend f (.operate label operation) = none) :
    Announces f (announced backend f (.operate label operation))
      (outcome (step backend (.operate label operation)) f).2 := by
  have books : (f.working d).manager.Sound backend
      ((f.working d).device :: f.others label) := sound.select found
  obtain ⟨result, t, performing, ended, -⟩ :=
    DeviceState.perform_recounts answers discreet books operation
  rcases ended with panics | ⟨changes, tells⟩
  · exact absurd returns (panickedRename_operate found performing panics)
  · obtain ⟨result', t', performing', advance, -⟩ :=
      DeviceState.perform_performed answers books operation
    rw [performing] at performing'
    cases performing'
    have stepping : (outcome (step backend (.operate label operation)) f).2 =
        f.worked label t := by
      rw [outcome_step_operate found, performing]
    refine announces_changes found stepping tells.reported
      fun id standing stands => ?_
    have selected := stands.of_perm (live_perm sound found)
    exact ⟨selected.orderly books.apart tells.orderly,
      selected.replace books.apart advance.id tells.standing⟩

/-- What a step changes is announced, unless the callback of a rename
panics. -/
theorem step_announces (answers : backend.Answers)
    (discreet : backend.Discreet) (sound : f.Sound backend)
    (s : FleetStep ε) (returns : panickedRename backend f s = none) :
    Announces f (announced backend f s) (outcome (step backend s) f).2 := by
  cases s with
  | allocate label name =>
    rcases found : f.devices.at? label with _ | d
    · have stepping : (outcome (step backend (.allocate label name)) f).2 = _ :=
        congrArg Prod.snd (outcome_step_allocate found name)
      refine announces_nothing found stepping
        (Manager.changes_allocated f.manager name) fun id standing stands => ?_
      have others : f.others label = f.live := others_of_at?_eq_none found
      have added := stands.add (d := f.nextDevice name) sound.books.next_apart
        (f.nextDevice_standing name)
      rw [← others] at added
      exact added
    · exact (announces_allocate sound found name).2
  | free label =>
    rcases found : f.devices.at? label with _ | d
    · exact announces_nothing found
        (congrArg Prod.snd (outcome_step_free_missing found)) rfl
        fun _ _ stands => stands
    · exact (announces_free sound found).2
  | operate label operation =>
    rcases found : f.devices.at? label with _ | d
    · exact announces_nothing found
        (congrArg Prod.snd (outcome_step_missing found operation)) rfl
        fun _ _ stands => stands
    · exact announces_operate answers discreet sound found operation returns
  | adjust change =>
    exact announces_nothing rfl
      (congrArg Prod.snd (outcome_step_adjust change f)) rfl
      fun _ _ stands => stands

theorem reported_eq_nil (stepping : (outcome (step backend s) f).2 = g)
    (same : g.manager.session.changes = f.manager.session.changes) :
    reported backend f s = [] := by
  rw [reported, stepping, same, List.drop_length]

/-- A step that fails is an operation, and it reports nothing. -/
theorem reported_of_error (answers : backend.Answers)
    (discreet : backend.Discreet) (sound : f.Sound backend) {e : Error}
    (failed : (outcome (step backend s) f).1 = .error (.error e)) :
    reported backend f s = [] := by
  cases s with
  | allocate label name =>
    obtain ⟨g, allocating, -⟩ := sound.allocate label name
    rw [allocating] at failed
    cases failed
  | free label =>
    rcases found : f.devices.at? label with _ | d
    · rw [outcome_step_free_missing found] at failed
      cases failed
    · obtain ⟨g, freeing, -⟩ := sound.free found
      rw [freeing] at failed
      cases failed
  | operate label operation =>
    rcases found : f.devices.at? label with _ | d
    · rw [outcome_step_missing found] at failed
      cases failed
    · obtain ⟨result, t, performing, -, failing⟩ :=
        DeviceState.perform_recounts answers discreet
          (s := f.working d) (sound.select found) operation
      have stepping : outcome (step backend (.operate label operation)) f =
          (result, f.worked label t) := by
        rw [outcome_step_operate found, performing]
      rw [stepping] at failed
      exact reported_eq_nil (congrArg Prod.snd stepping) (failing e failed)
  | adjust change =>
    rw [outcome_step_adjust] at failed
    cases failed

/-- A notification reports nothing to a device that is not registered, and
nothing that the device knows. -/
theorem reported_notify_eq_nil (found : f.devices.at? label = some d)
    {observation : Observation}
    (idle : d.isRegistered = false ∨
      d.observed observation.kind = some observation) :
    reported backend f (.operate label (.notify observation)) = [] := by
  have performing : outcome (step backend
      (.operate label (.notify observation))) f =
      let done := outcome (DeviceState.notify backend observation)
        (f.working d)
      (done.1, f.worked label done.2) := outcome_step_operate found _
  cases registered : d.isRegistered with
  | false =>
    have ignored := DeviceState.outcome_notify_ignored backend (f.working d)
      registered observation
    rw [ignored] at performing
    exact reported_eq_nil (congrArg Prod.snd performing)
      (Session.changes_noting_other rfl)
  | true =>
    rw [registered] at idle
    have known := DeviceState.outcome_notify_known backend (f.working d)
      registered (idle.resolve_left Bool.noConfusion)
    rw [known] at performing
    exact reported_eq_nil (congrArg Prod.snd performing) rfl

/-! ## Runs -/

/-- What the steps of a run change is announced. -/
theorem run_announces (answers : backend.Answers)
    (discreet : backend.Discreet) (sound : f.Sound backend)
    (steps : List (FleetStep ε)) (returns : RenamesReturn backend f steps) :
    Announces f (history backend f steps) (run backend f steps) := by
  induction steps generalizing f with
  | nil => exact .refl f
  | cons s steps ih =>
    obtain ⟨returns, later⟩ := returns
    obtain ⟨result, g, stepping, follows, -⟩ := step_follows answers sound s
    have first := step_announces answers discreet sound s returns
    have rest := ih (stepping ▸ follows.sound) later
    rw [run_cons, history]
    exact first.trans rest

/-- After every run in which no callback of a rename panics, the changes
announced of each device, put together from its allocation on, are what the
device is: registered or not, on which interface, and with what has been
observed.  Each change was due when it was reported, so registrations and
their ends take turns, a rename is one from the name in force, and no value
is reported twice in a row.  A registered device that is freed, or replaced
under its label, ends with the end of its registration.  Nothing is reported
by a notification that is idle or by a step that fails, and there are no
other reports than those announced. -/
theorem run_recounts_devices (backend : Backend η ε)
    (answers : backend.Answers) (discreet : backend.Discreet) (host : η)
    (steps : List (FleetStep ε))
    (returns : RenamesReturn backend (start host) steps) :
    let f := run backend (start host) steps
    let told := history backend (start host) steps
    (∀ d ∈ f.live, Standing.unbound.following (changesOf d.id told) =
      { binding :=
          if d.isRegistered then some ⟨d.netnsKey, d.ifindex⟩ else none
        devName := d.devName
        up := d.up
        mtu := d.mtu }) ∧
    (∀ id before change after,
      changesOf id told = before ++ change :: after →
        change.Due (Standing.unbound.following before)) ∧
    (∀ id, ∃ n, (changesOf id told).filterMap Change.registers? =
      alternating true n) ∧
    (∀ id, (∀ d ∈ f.live, d.id ≠ id) → changesOf id told = [] ∨
      (changesOf id told).getLast? = some .unregistered) ∧
    (∀ label d s, f.devices.at? label = some d →
      (s = .free label ∨ ∃ name, s = .allocate label name) →
        announced backend f s = d.announcing
          (if d.isRegistered then [.unregistered] else [])) ∧
    (∀ label d observation, f.devices.at? label = some d →
      (d.isRegistered = false ∨
        d.observed observation.kind = some observation) →
      reported backend f (.operate label (.notify observation)) = []) ∧
    (∀ s e, (outcome (step backend s) f).1 = .error (.error e) →
      reported backend f s = []) ∧
    f.manager.session.changes = told.map fun a => (a.device, a.change) := by
  intro f told
  have begun := sound_start backend host
  have sound : f.Sound backend := (run_follows answers begun steps).sound
  have announces : Announces (start host) told f :=
    run_announces answers discreet begun steps returns
  have nothing : ∀ id, Stands (start host : Fleet η ε).live id .unbound :=
    fun id => Or.inr ⟨fun _ hd => absurd hd List.not_mem_nil, rfl⟩
  have orderly : ∀ id, Orderly .unbound (changesOf id told) := fun id =>
    (announces.stands id _ (nothing id)).1
  have stands : ∀ id, Stands f.live id
      (Standing.unbound.following (changesOf id told)) := fun id =>
    (announces.stands id _ (nothing id)).2
  refine ⟨?_, ?_, ?_, ?_, ?_, ?_, ?_, announces.complete⟩
  · intro d hd
    exact sound.books.standing_eq hd (stands d.id)
  · intro id before change after whole
    have whole_orderly := orderly id
    rw [whole] at whole_orderly
    exact whole_orderly.due
  · intro id
    exact (orderly id).alternates
  · intro id gone
    refine (orderly id).getLast?_of_following_eq_unbound ?_
    rcases stands id with ⟨d, hd, here, -⟩ | ⟨-, ended⟩
    · exact absurd here (gone d hd)
    · exact ended
  · rintro label d s found (rfl | ⟨name, rfl⟩)
    · exact (announces_free sound found).1
    · exact (announces_allocate sound found name).1
  · intro label d observation found idle
    exact reported_notify_eq_nil found idle
  · intro s e failed
    exact reported_of_error answers discreet sound failed

/-- One of two devices on the tunnel observes it, with a callback that
panics, and finds it renamed; the other one comes and goes. -/
def watchTunnel : List (FleetStep MemoryHost.Adjustment) :=
  shareTunnel ++
    [.operate "b" .register,
      .operate "a" (.setCallback .upDown (some [.panic "up"])),
      .operate "a" (.notify (.upDown true)),
      .adjust (.renameLink ⟨"ns", ⟨5⟩⟩ "tun1"),
      .free "b",
      .operate "a" .refresh]

theorem recounted_watchTunnel :
    let f := run MemoryHost.backend (start tunnelHost) watchTunnel
    let told := history MemoryHost.backend (start tunnelHost) watchTunnel
    MemoryHost.backend.Answers ∧ MemoryHost.backend.Discreet ∧
    RenamesReturn MemoryHost.backend (start tunnelHost) watchTunnel ∧
    changesOf ⟨0⟩ told =
      [.registered "tun0" ⟨5⟩ "ns", .linkUpDown true,
        .renamed "tun0" "tun1", .linkUpDown false, .mtuChanged 1500] ∧
    changesOf ⟨1⟩ told = [.registered "tun0" ⟨5⟩ "ns", .unregistered] ∧
    f.live.map Device.id = [⟨0⟩] ∧
    ∀ d ∈ f.live, d.standing =
      ⟨some ⟨"ns", ⟨5⟩⟩, some "tun1", some false, some 1500⟩ := by
  intro f told
  have answers := MemoryHost.backend_calm.answers
  have discreet := MemoryHost.backend_calm.discreet
  have returns : RenamesReturn MemoryHost.backend (start tunnelHost)
      watchTunnel := by decide +kernel
  obtain ⟨recounted, -⟩ := run_recounts_devices MemoryHost.backend answers
    discreet tunnelHost watchTunnel returns
  have first : changesOf ⟨0⟩ told =
      [.registered "tun0" ⟨5⟩ "ns", .linkUpDown true,
        .renamed "tun0" "tun1", .linkUpDown false, .mtuChanged 1500] := by
    decide +kernel
  have second : changesOf ⟨1⟩ told =
      [.registered "tun0" ⟨5⟩ "ns", .unregistered] := by
    decide +kernel
  have alone : f.live.map Device.id = [⟨0⟩] := by decide +kernel
  refine ⟨answers, discreet, returns, first, second, alone, ?_⟩
  intro d hd
  have same : d.id = ⟨0⟩ := by
    have mem := List.mem_map_of_mem (f := Device.id) hd
    rw [alone, List.mem_singleton] at mem
    exact mem
  have stands := recounted d hd
  rw [same, first] at stands
  exact stands.symm

/-- A callback that panics over a rename leaves the old name in force, while
the new one has been announced. -/
example :
    let steps := shareTunnel ++
      [.operate "a" (.setCallback .devName (some [.panic "renamed"])),
        .operate "a" (.notify (.devName "tun1"))]
    let f := run MemoryHost.backend (start tunnelHost) steps
    (f.devices.at? "a").map Device.devName = some (some "tun0") ∧
    changesOf ⟨0⟩ (history MemoryHost.backend (start tunnelHost) steps) =
      [.registered "tun0" ⟨5⟩ "ns", .renamed "tun0" "tun1"] := by
  decide +kernel

end Fleet

end InterfaceManager

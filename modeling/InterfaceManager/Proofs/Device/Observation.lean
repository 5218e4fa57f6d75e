import InterfaceManager.Proofs.Device.Interface

/-!
# Callbacks keep the books

A callback works on the manager while its device waits.  Each of its
instructions leaves the device alone and keeps the books, so the books are
sound whenever a callback ends, be it by a panic of its own.  Nothing else
in an observation panics, and there are only a few ways in which one goes.
-/

namespace InterfaceManager

open InterfaceManager.Action

namespace DeviceState

variable {backend : Backend η ε} {s t u : DeviceState η ε}
  {rest : List (Device ε)}

/-- From `s` to `t` the manager has worked while the device stayed as it
was. -/
structure Undisturbed (backend : Backend η ε) (rest : List (Device ε))
    (s t : DeviceState η ε) : Prop where
  device : t.device = s.device
  sound : t.manager.Sound backend (s.device :: rest)
  next : s.manager.registry.next ≤ t.manager.registry.next
  changes : backend.Discreet →
    t.manager.session.changes = s.manager.session.changes

theorem Undisturbed.refl
    (sound : s.manager.Sound backend (s.device :: rest)) :
    Undisturbed backend rest s s :=
  ⟨rfl, sound, Nat.le_refl _, fun _ => rfl⟩

theorem Undisturbed.trans (first : Undisturbed backend rest s t)
    (second : Undisturbed backend rest t u) :
    Undisturbed backend rest s u where
  device := second.device.trans first.device
  sound := first.device ▸ second.sound
  next := Nat.le_trans first.next second.next
  changes discreet :=
    (second.changes discreet).trans (first.changes discreet)

/-- A change of the interface is followed whatever it ends in. -/
theorem followed_undisturbed {act : Action (Manager η) Unit}
    {result : Outcome Unit} {session : Session η}
    (running : outcome act s.manager = (result, s.manager.withSession session))
    (sound : (s.manager.withSession session).Sound backend (s.device :: rest))
    (unreported : backend.Discreet →
      session.changes = s.manager.session.changes)
    (answered : ∀ message, result ≠ .error (.panic message)) :
    ∃ t, outcome (do
        let result ← Action.tried (onManager act)
        report (.followed result) : Action (DeviceState η ε) Unit) s =
          (.ok (), t) ∧
      Undisturbed backend rest s t := by
  rcases result with (e | message) | ⟨⟩
  · refine ⟨{ s with
      manager := s.manager.withSession session
      reports := s.reports ++ [.followed (.error e)] },
      ?_, rfl, sound, Nat.le_refl _, unreported⟩
    simp [outcome_bind, outcome_tried, running]
  · exact absurd rfl (answered message)
  · refine ⟨{ s with
      manager := s.manager.withSession session
      reports := s.reports ++ [.followed (.ok ())] },
      ?_, rfl, sound, Nat.le_refl _, unreported⟩
    simp [outcome_bind, outcome_tried, running]

/-- An instruction is followed unless it is a panic. -/
theorem follow_undisturbed (answers : backend.Answers)
    (sound : s.manager.Sound backend (s.device :: rest))
    (instruction : Instruction ε) :
    ∃ result t, outcome (follow backend instruction) s = (result, t) ∧
      Undisturbed backend rest s t ∧
      (result = .ok () ∨ ∃ message,
        instruction = .panic message ∧ result = .error (.panic message)) := by
  cases instruction with
  | bringUpDown up =>
    obtain ⟨result, session, running, sound', unreported, answered⟩ :=
      Device.onInterface_sound answers sound List.mem_cons_self
        "bring_up_down" fun devName => Device.setUp_harmless answers devName up
    obtain ⟨t, houtcome, undisturbed⟩ :=
      followed_undisturbed running sound' unreported answered
    refine ⟨_, t, ?_, undisturbed, Or.inl rfl⟩
    rw [follow, outcome_bind, outcome_getDevice]
    exact houtcome
  | addAddress address length =>
    obtain ⟨result, session, running, sound', unreported, answered⟩ :=
      Device.onInterface_sound answers sound List.mem_cons_self
        "add_address" fun devName =>
          Device.addAddress_harmless answers devName address length
    obtain ⟨t, houtcome, undisturbed⟩ :=
      followed_undisturbed running sound' unreported answered
    refine ⟨_, t, ?_, undisturbed, Or.inl rfl⟩
    rw [follow, outcome_bind, outcome_getDevice]
    exact houtcome
  | addRoute destination length gateway =>
    obtain ⟨result, session, running, sound', unreported, answered⟩ :=
      Device.onInterface_sound answers sound List.mem_cons_self
        "add_route" fun devName =>
          Device.addRoute_harmless answers devName destination length gateway
    obtain ⟨t, houtcome, undisturbed⟩ :=
      followed_undisturbed running sound' unreported answered
    refine ⟨_, t, ?_, undisturbed, Or.inl rfl⟩
    rw [follow, outcome_bind, outcome_getDevice]
    exact houtcome
  | allocateBriefly name =>
    obtain ⟨m, freeing, sound', next, changes⟩ :=
      Manager.free_succeeds (sound.allocate name)
    refine ⟨_, { s with
      manager := m
      reports := s.reports ++
        [.saw (s.manager.allocated name).registry.names] },
      ?_, ⟨rfl, sound', ?_, fun _ => ?_⟩, Or.inl rfl⟩
    · simp [follow, outcome_bind, Manager.outcome_allocate, freeing]
    · rw [next]
      exact Nat.le_succ _
    · rw [changes, Device.farewell_eq_nil (Device.fresh_context _ _),
        List.map_nil, List.append_nil]
      exact Manager.changes_allocated _ _
  | panic message =>
    exact ⟨_, s, rfl, .refl sound, Or.inr ⟨message, rfl, rfl⟩⟩
  | adjust change =>
    let session : Session η :=
      { s.manager.session with
        host := backend.adjust s.manager.session.host change }
    refine ⟨_, { s with
      manager := s.manager.withSession session
      reports := s.reports ++ [.followed (.ok ())] },
      ?_, ⟨rfl, sound.withSession sound.unrefused, Nat.le_refl _,
        fun _ => rfl⟩, Or.inl rfl⟩
    simp [follow, outcome_bind, session]

/-- A callback is followed to its end or to a panic of its own. -/
theorem forM_follow_undisturbed (answers : backend.Answers)
    (sound : s.manager.Sound backend (s.device :: rest))
    (callback : Callback ε) :
    ∃ result t,
      outcome (callback.forM (follow backend)) s = (result, t) ∧
      Undisturbed backend rest s t ∧
      (result = .ok () ∨ ∃ message,
        .panic message ∈ callback ∧ result = .error (.panic message)) := by
  induction callback generalizing s with
  | nil => exact ⟨_, s, rfl, .refl sound, Or.inl rfl⟩
  | cons instruction callback ih =>
    obtain ⟨result, t, first, undisturbed, ended⟩ :=
      follow_undisturbed answers sound instruction
    rcases ended with rfl | ⟨message, rfl, rfl⟩
    · have sound' : t.manager.Sound backend (t.device :: rest) := by
        rw [undisturbed.device]
        exact undisturbed.sound
      obtain ⟨result, u, others, undisturbed', ended⟩ := ih sound'
      refine ⟨result, u, ?_, undisturbed.trans undisturbed', ?_⟩
      · rw [List.forM, outcome_bind, first]
        exact others
      · rcases ended with done | ⟨message, hmem, panicked⟩
        · exact Or.inl done
        · exact Or.inr ⟨message, List.mem_cons_of_mem _ hmem, panicked⟩
    · refine ⟨_, t, ?_, undisturbed, Or.inr ⟨message, ?_, rfl⟩⟩
      · rw [List.forM, outcome_bind, first]
      · exact List.mem_cons_self

/-! ## Calls -/

/-- From `s` to `t` the device has been worked on; the books are sound and
the device is the same one. -/
structure Advance (backend : Backend η ε) (rest : List (Device ε))
    (s t : DeviceState η ε) : Prop where
  sound : t.manager.Sound backend (t.device :: rest)
  id : t.device.id = s.device.id
  next : s.manager.registry.next ≤ t.manager.registry.next

theorem Advance.refl (sound : s.manager.Sound backend (s.device :: rest)) :
    Advance backend rest s s :=
  ⟨sound, rfl, Nat.le_refl _⟩

theorem Advance.trans (first : Advance backend rest s t)
    (second : Advance backend rest t u) : Advance backend rest s u :=
  ⟨second.sound, second.id.trans first.id,
    Nat.le_trans first.next second.next⟩

theorem Undisturbed.advance (undisturbed : Undisturbed backend rest s t) :
    Advance backend rest s t where
  sound := by
    rw [undisturbed.device]
    exact undisturbed.sound
  id := congrArg Device.id undisturbed.device
  next := undisturbed.next

/-- The device changes without a change of its entry or its context. -/
theorem Advance.change (sound : s.manager.Sound backend (s.device :: rest))
    {d : Device ε} (entry : d.entry = s.device.entry)
    (context : d.context = s.device.context) (coherent : d.Coherent) :
    Advance backend rest s { s with device := d } where
  sound := sound.replace entry context coherent
  id := congrArg Prod.fst entry
  next := Nat.le_refl _

end DeviceState

namespace Device

@[simp] theorem setCallback_context (d : Device ε)
    (callback : Option (Callback ε)) (kind : ObservationKind) :
    (d.setCallback callback kind).context = d.context := by
  cases kind <;> rfl

theorem setCallback_entry (d : Device ε)
    (callback : Option (Callback ε)) (kind : ObservationKind) :
    (d.setCallback callback kind).entry = d.entry := by
  cases kind <;> rfl

theorem id_setCallback (d : Device ε) (callback : Option (Callback ε))
    (kind : ObservationKind) : (d.setCallback callback kind).id = d.id := by
  cases kind <;> rfl

theorem id_store (d : Device ε) (observation : Observation) :
    (d.store observation).id = d.id := by
  cases observation <;> rfl

theorem Coherent.setCallback {d : Device ε} (coherent : d.Coherent)
    (callback : Option (Callback ε)) (kind : ObservationKind) :
    (d.setCallback callback kind).Coherent := by
  cases kind <;> exact ⟨coherent.named, coherent.forgotten⟩

/-- A callback that comes back is where it was. -/
theorem setCallback_back {d : Device ε} {kind : ObservationKind}
    {callback : Option (Callback ε)} (installed : d.callback kind = callback) :
    (d.setCallback none kind).setCallback callback kind = d := by
  subst installed
  cases kind <;> rfl

theorem store_entry (d : Device ε) (observation : Observation) :
    (d.store observation).entry = d.entry := by
  cases observation <;> rfl

theorem store_context (d : Device ε) (observation : Observation) :
    (d.store observation).context = d.context := by
  cases observation <;> rfl

theorem store_isRegistered (d : Device ε) (observation : Observation) :
    (d.store observation).isRegistered = d.isRegistered := by
  rw [isRegistered, store_context, isRegistered]

theorem store_callback (d : Device ε) (observation : Observation) :
    (d.store observation).callback = d.callback := by
  funext kind
  cases observation <;> cases kind <;> rfl

theorem Coherent.store {d : Device ε} (coherent : d.Coherent)
    (registered : d.isRegistered = true) (observation : Observation) :
    (d.store observation).Coherent where
  named := by
    have hnamed := coherent.named.trans registered
    rw [store_isRegistered, registered]
    cases observation with
    | devName name => rfl
    | upDown up => exact hnamed
    | mtu mtu => exact hnamed
  forgotten := by
    intro unbound
    rw [store_context] at unbound
    simp [isRegistered, unbound] at registered

/-- One of the callbacks of the device ends in a panic with this message. -/
def MayPanic (d : Device ε) (message : String) : Prop :=
  ∃ kind callback, d.callback kind = some callback ∧
    .panic message ∈ callback

end Device

namespace Report

/-- The observation for which a callback was called, if a report is about
that. -/
def call? : Report ε → Option Observation
  | called observation _ => some observation
  | _ => none

/-- The observations for which callbacks were called, in the order of the
reports. -/
def calls (reports : List (Report ε)) : List Observation :=
  reports.filterMap call?

end Report

namespace DeviceState

variable {backend : Backend η ε} {s : DeviceState η ε}
  {rest : List (Device ε)}

/-! ## Calls on report -/

section Reports

variable {view : Report ε → Option β}
  (silent : ∀ r : Report ε, r.call? = none → view r = none) (seen : List β)

theorem onManager_keeps_seen (act : Action (Manager η) α) :
    (onManager act : Action (DeviceState η ε) α).Keeps fun s =>
      s.reports.filterMap view = seen := by
  intro s same
  rw [outcome_onManager]
  exact same

include silent

theorem report_keeps_seen {r : Report ε} (other : r.call? = none) :
    (report r : Action (DeviceState η ε) Unit).Keeps fun s =>
      s.reports.filterMap view = seen := by
  intro s same
  rw [outcome_report]
  simpa [silent r other] using same

theorem followed_keeps_seen (act : Device ε → Action (Manager η) Unit) :
    Keeps (fun s => s.reports.filterMap view = seen) (do
      let device ← getDevice
      let result ← Action.tried (onManager (act device))
      report (.followed result) : Action (DeviceState η ε) Unit) := by
  have reads : (getDevice : Action (DeviceState η ε) (Device ε)).Keeps
      fun s => s.reports.filterMap view = seen := fun _ same => same
  refine reads.bind fun device => ?_
  refine (onManager_keeps_seen seen (act device)).tried.bind fun _ => ?_
  exact report_keeps_seen silent seen rfl

/-- An instruction calls no callback. -/
theorem follow_keeps_seen (instruction : Instruction ε) :
    (follow backend instruction).Keeps fun s =>
      s.reports.filterMap view = seen := by
  cases instruction with
  | bringUpDown up => exact followed_keeps_seen silent seen _
  | addAddress address length => exact followed_keeps_seen silent seen _
  | addRoute destination length gateway =>
    exact followed_keeps_seen silent seen _
  | allocateBriefly name =>
    refine (onManager_keeps_seen seen _).bind fun brief => ?_
    refine Keeps.get.bind fun s => ?_
    refine (report_keeps_seen silent seen rfl).bind fun _ => ?_
    exact onManager_keeps_seen seen _
  | panic message => exact .panic _ message
  | adjust change =>
    refine (onManager_keeps_seen seen _).bind fun _ => ?_
    exact report_keeps_seen silent seen rfl

end Reports

/-- From `s` to `t` a callback has been called and has panicked.  It is
reported last, and away from the device. -/
structure Interrupted (backend : Backend η ε) (rest : List (Device ε))
    (observation : Observation) (s t : DeviceState η ε) : Prop where
  device : t.device = s.device.setCallback none observation.kind
  advance : Advance backend rest s t
  changes : backend.Discreet →
    t.manager.session.changes = s.manager.session.changes
  called : (Report.calls t.reports).getLast? = some observation

/-- A call of a callback leaves the device as it was, with the callback back
in its place; or the callback panics and does not come back. -/
theorem call_cases (answers : backend.Answers)
    (sound : s.manager.Sound backend (s.device :: rest))
    (observation : Observation) :
    (∃ t, outcome (call backend observation) s = (.ok (), t) ∧
      Undisturbed backend rest s t) ∨
    ∃ message t,
      outcome (call backend observation) s = (.error (.panic message), t) ∧
      s.device.MayPanic message ∧
      Interrupted backend rest observation s t := by
  rcases installed : s.device.callback observation.kind with _ | callback
  · refine Or.inl ⟨s, ?_, .refl sound⟩
    simp [call, outcome_bind, installed]
  · let away : DeviceState η ε :=
      { s with
        device := s.device.setCallback none observation.kind
        reports := s.reports ++ [.called observation
          (s.device.setCallback none observation.kind)] }
    have leaving : Advance backend rest s away :=
      { Advance.change sound (s.device.setCallback_entry none _)
          (s.device.setCallback_context none _)
          ((sound.coherent _ List.mem_cons_self).setCallback none _) with }
    obtain ⟨result, t, following, undisturbed, ended⟩ :=
      forM_follow_undisturbed answers leaving.sound callback
    rcases ended with rfl | ⟨message, hmem, rfl⟩
    · have returned :
          t.device.setCallback (some callback) observation.kind = s.device := by
        rw [undisturbed.device]
        exact Device.setCallback_back installed
      refine Or.inl ⟨{ t with device := s.device }, ?_, rfl, ?_,
        undisturbed.next, undisturbed.changes⟩
      · rw [← returned]
        simp only [call, outcome_bind, outcome_getDevice, installed,
          outcome_changeDevice, outcome_report]
        rw [following]
      · exact undisturbed.sound.replace
          (s.device.setCallback_entry none _).symm
          (s.device.setCallback_context none _).symm
          (sound.coherent _ List.mem_cons_self)
    · have called : Report.calls away.reports =
          Report.calls s.reports ++ [observation] := by
        simp [away, Report.calls, Report.call?]
      have reported : Report.calls t.reports =
          Report.calls s.reports ++ [observation] := by
        have keeps : (callback.forM (follow backend)).Keeps fun t =>
            Report.calls t.reports = Report.calls s.reports ++ [observation] :=
          .forM fun instruction _ =>
            follow_keeps_seen (fun _ silent => silent) _ instruction
        have kept := keeps away called
        rw [following] at kept
        exact kept
      refine Or.inr ⟨message, t, ?_, ⟨_, callback, installed, hmem⟩,
        undisturbed.device, leaving.trans undisturbed.advance,
        undisturbed.changes, ?_⟩
      · simp only [call, outcome_bind, outcome_getDevice, installed,
          outcome_changeDevice, outcome_report]
        rw [following]
      · rw [reported, List.getLast?_concat]

/-! ## Notifications -/

section Notify

variable (backend) (s)

/-- The state after the change that an observation makes has been noted. -/
def noticing (observation : Observation) : DeviceState η ε :=
  { s with manager := s.manager.withSession (s.manager.session.noting
      (.lifecycle s.device.name (observation.changeOf s.device))) }

theorem outcome_notify_ignored (unregistered : s.device.isRegistered = false)
    (observation : Observation) :
    outcome (notify backend observation) s =
      (.ok (), { s with
        manager := s.manager.withSession (s.manager.session.noting
          (.observationIgnored s.device.name observation.kind.label)) }) := by
  simp [notify, outcome_bind, unregistered]

theorem outcome_notify_known (registered : s.device.isRegistered = true)
    {observation : Observation}
    (known : s.device.observed observation.kind = some observation) :
    outcome (notify backend observation) s = (.ok (), s) := by
  simp [notify, outcome_bind, registered, known]

/-- A new name is stored after the callback has returned. -/
theorem outcome_notify_renamed (registered : s.device.isRegistered = true)
    {name : String}
    (new : s.device.observed .devName ≠ some (.devName name)) :
    outcome (notify backend (.devName name)) s =
      outcome (do
          call backend (.devName name)
          changeDevice fun device => device.store (.devName name))
        (noticing s (.devName name)) := by
  simp [notify, outcome_bind, registered, Observation.kind, new, noticing]

/-- The state after that and after the observation has been stored. -/
def storing (observation : Observation) : DeviceState η ε :=
  { noticing s observation with device := s.device.store observation }

/-- The other values are stored before the callback is called. -/
theorem outcome_notify_changed (registered : s.device.isRegistered = true)
    {observation : Observation} (other : observation.kind ≠ .devName)
    (new : s.device.observed observation.kind ≠ some observation) :
    outcome (notify backend observation) s =
      outcome (call backend observation) (storing s observation) := by
  cases observation with
  | devName name => exact absurd rfl other
  | upDown up =>
    simp [notify, outcome_bind, registered, new, noticing, storing]
  | mtu mtu =>
    simp [notify, outcome_bind, registered, new, noticing, storing]

end Notify

/-- The device takes note of an observation: it is registered, and the value
is new to it. -/
structure Heeds (d : Device ε) (observation : Observation) : Prop where
  registered : d.isRegistered = true
  new : d.observed observation.kind ≠ some observation

/-- The ways in which a notification of `s` goes, with what it ends in. -/
inductive Notified (backend : Backend η ε) (rest : List (Device ε))
    (s : DeviceState η ε) :
    Observation → Outcome Unit → DeviceState η ε → Prop
  | ignored (unregistered : s.device.isRegistered = false)
      (observation : Observation) :
      Notified backend rest s observation (.ok ()) { s with
        manager := s.manager.withSession (s.manager.session.noting
          (.observationIgnored s.device.name observation.kind.label)) }
  | known {observation : Observation}
      (known : s.device.observed observation.kind = some observation) :
      Notified backend rest s observation (.ok ()) s
  /-- The callback of a rename has returned, and the name is stored. -/
  | renamed {name : String} {t : DeviceState η ε}
      (heeds : Heeds s.device (.devName name))
      (returned : Undisturbed backend rest (noticing s (.devName name)) t) :
      Notified backend rest s (.devName name) (.ok ())
        { t with device := t.device.store (.devName name) }
  /-- The callback of a rename has panicked, and the name is not stored. -/
  | unrenamed {name message : String} {t : DeviceState η ε}
      (heeds : Heeds s.device (.devName name))
      (may : s.device.MayPanic message)
      (broken : Interrupted backend rest (.devName name)
        (noticing s (.devName name)) t) :
      Notified backend rest s (.devName name) (.error (.panic message)) t
  | changed {observation : Observation} {t : DeviceState η ε}
      (heeds : Heeds s.device observation)
      (returned : Undisturbed backend rest (storing s observation) t) :
      Notified backend rest s observation (.ok ()) t
  /-- The callback has panicked after the value was stored. -/
  | broken {observation : Observation} {message : String}
      {t : DeviceState η ε} (heeds : Heeds s.device observation)
      (may : s.device.MayPanic message)
      (broken : Interrupted backend rest observation
        (storing s observation) t) :
      Notified backend rest s observation (.error (.panic message)) t

theorem storing_advance (sound : s.manager.Sound backend (s.device :: rest))
    {observation : Observation} (heeds : Heeds s.device observation) :
    Advance backend rest s (storing s observation) := by
  have noted : (noticing s observation).manager.Sound backend
      ((noticing s observation).device :: rest) := sound.noting rfl
  have coherent := sound.coherent _ List.mem_cons_self
  have stored := Advance.change noted (s.device.store_entry observation)
    (s.device.store_context observation)
    (coherent.store heeds.registered observation)
  exact ⟨stored.sound, stored.id, stored.next⟩

/-- Every notification goes in one of these ways. -/
theorem notify_notified (answers : backend.Answers)
    (sound : s.manager.Sound backend (s.device :: rest))
    (observation : Observation) :
    ∃ result t, outcome (notify backend observation) s = (result, t) ∧
      Notified backend rest s observation result t := by
  cases registered : s.device.isRegistered with
  | false =>
    exact ⟨_, _, outcome_notify_ignored backend s registered observation,
      .ignored registered observation⟩
  | true =>
    by_cases known : s.device.observed observation.kind = some observation
    · exact ⟨_, s, outcome_notify_known backend s registered known,
        .known known⟩
    · have heeds : Heeds s.device observation := ⟨registered, known⟩
      by_cases renamed : observation.kind = .devName
      · obtain ⟨name, rfl⟩ : ∃ name, observation = .devName name := by
          cases observation with
          | devName name => exact ⟨name, rfl⟩
          | upDown up => cases renamed
          | mtu mtu => cases renamed
        have noted : (noticing s (.devName name)).manager.Sound backend
            ((noticing s (.devName name)).device :: rest) := sound.noting rfl
        have houtcome := outcome_notify_renamed backend s registered known
        rcases call_cases answers noted (.devName name)
          with ⟨t, calling, returned⟩ | ⟨message, t, calling, may, broken⟩
        · rw [outcome_bind, calling] at houtcome
          exact ⟨_, _, houtcome, .renamed heeds returned⟩
        · rw [outcome_bind, calling] at houtcome
          exact ⟨_, t, houtcome, .unrenamed heeds may broken⟩
      · have houtcome :=
          outcome_notify_changed backend s registered renamed known
        have stored := (storing_advance sound heeds).sound
        rcases call_cases answers stored observation
          with ⟨t, calling, returned⟩ | ⟨message, t, calling, may, broken⟩
        · exact ⟨_, t, houtcome.trans calling, .changed heeds returned⟩
        · obtain ⟨kind, callback, installed, hmem⟩ := may
          have callbacks := s.device.store_callback observation
          exact ⟨_, t, houtcome.trans calling, .broken heeds
            ⟨kind, callback, callbacks ▸ installed, hmem⟩ broken⟩

/-- A notification advances the device, whatever way it goes. -/
theorem Notified.advance {observation : Observation} {result : Outcome Unit}
    (notified : Notified backend rest s observation result t)
    (sound : s.manager.Sound backend (s.device :: rest)) :
    Advance backend rest s t := by
  have noted : ∀ observation,
      Advance backend rest s (noticing s observation) := fun _ =>
    ⟨sound.noting rfl, rfl, Nat.le_refl _⟩
  cases notified with
  | ignored unregistered observation =>
    exact ⟨sound.noting rfl, rfl, Nat.le_refl _⟩
  | known known => exact .refl sound
  | @renamed name t heeds returned =>
    refine ((noted _).trans returned.advance).trans
      (Advance.change returned.advance.sound (Device.store_entry _ _)
        (Device.store_context _ _) ?_)
    rw [returned.device]
    exact (sound.coherent _ List.mem_cons_self).store heeds.registered _
  | unrenamed heeds may broken => exact (noted _).trans broken.advance
  | changed heeds returned =>
    exact (storing_advance sound heeds).trans returned.advance
  | broken heeds may broken =>
    exact (storing_advance sound heeds).trans broken.advance

/-- A notification returns with every callback in its place, or it ends with
the panic of a callback. -/
theorem Notified.ended {observation : Observation} {result : Outcome Unit}
    (notified : Notified backend rest s observation result t) :
    (result = .ok () ∧ t.device.callback = s.device.callback) ∨
    ∃ message, result = .error (.panic message) ∧
      s.device.MayPanic message := by
  cases notified with
  | ignored unregistered observation => exact Or.inl ⟨rfl, rfl⟩
  | known known => exact Or.inl ⟨rfl, rfl⟩
  | @renamed name t heeds returned =>
    have device : t.device = s.device := returned.device
    refine Or.inl ⟨rfl, (Device.store_callback _ _).trans ?_⟩
    exact congrArg Device.callback device
  | unrenamed heeds may broken => exact Or.inr ⟨_, rfl, may⟩
  | changed heeds returned =>
    refine Or.inl ⟨rfl, ?_⟩
    rw [returned.device]
    exact s.device.store_callback observation
  | broken heeds may broken => exact Or.inr ⟨_, rfl, may⟩

/-- The context of a device is not touched by notifications. -/
theorem Notified.context {observation : Observation} {result : Outcome Unit}
    (notified : Notified backend rest s observation result t) :
    t.device.context = s.device.context := by
  cases notified with
  | ignored unregistered observation => rfl
  | known known => rfl
  | renamed heeds returned =>
    exact (Device.store_context _ _).trans
      (congrArg Device.context returned.device)
  | unrenamed heeds may broken =>
    rw [broken.device, Device.setCallback_context]
    rfl
  | changed heeds returned =>
    rw [returned.device]
    exact Device.store_context _ _
  | broken heeds may broken =>
    rw [broken.device, Device.setCallback_context]
    exact Device.store_context _ _

/-! ## Notifications in turn -/

/-- The ways in which notifications of `s` one after another go: the first
one that does not return is the last. -/
inductive NotifiedInTurn (backend : Backend η ε) (rest : List (Device ε)) :
    DeviceState η ε → List Observation → Outcome Unit → DeviceState η ε → Prop
  | done (s : DeviceState η ε) : NotifiedInTurn backend rest s [] (.ok ()) s
  | next {s t u : DeviceState η ε} {observation : Observation}
      {observations : List Observation} {result : Outcome Unit}
      (first : Notified backend rest s observation (.ok ()) t)
      (others : NotifiedInTurn backend rest t observations result u) :
      NotifiedInTurn backend rest s (observation :: observations) result u
  | stopped {s t : DeviceState η ε} {observation : Observation} {f : Fault}
      (first : Notified backend rest s observation (.error f) t)
      (observations : List Observation) :
      NotifiedInTurn backend rest s (observation :: observations) (.error f) t

theorem forM_notify_inTurn (answers : backend.Answers)
    (sound : s.manager.Sound backend (s.device :: rest))
    (observations : List Observation) :
    ∃ result t,
      outcome (observations.forM (notify backend)) s = (result, t) ∧
      NotifiedInTurn backend rest s observations result t := by
  induction observations generalizing s with
  | nil => exact ⟨_, s, rfl, .done s⟩
  | cons observation observations ih =>
    obtain ⟨result, t, notifying, first⟩ :=
      notify_notified answers sound observation
    rcases result with f | ⟨⟩
    · refine ⟨.error f, t, ?_, .stopped first observations⟩
      rw [List.forM, outcome_bind, notifying]
    · obtain ⟨result, u, going, others⟩ := ih (first.advance sound).sound
      refine ⟨result, u, ?_, .next first others⟩
      rw [List.forM, outcome_bind, notifying]
      exact going

namespace NotifiedInTurn

variable {observations : List Observation} {result : Outcome Unit}

theorem advance
    (inTurn : NotifiedInTurn backend rest s observations result t)
    (sound : s.manager.Sound backend (s.device :: rest)) :
    Advance backend rest s t := by
  induction inTurn with
  | done s => exact .refl sound
  | next first others ih =>
    have early := first.advance sound
    exact early.trans (ih early.sound)
  | stopped first observations => exact first.advance sound

theorem context
    (inTurn : NotifiedInTurn backend rest s observations result t) :
    t.device.context = s.device.context := by
  induction inTurn with
  | done s => rfl
  | next first others ih => exact ih.trans first.context
  | stopped first observations => exact first.context

/-- Notifications return, or one of them ends with the panic of a
callback. -/
theorem ended
    (inTurn : NotifiedInTurn backend rest s observations result t) :
    result = .ok () ∨
    ∃ message, result = .error (.panic message) ∧
      s.device.MayPanic message := by
  induction inTurn with
  | done s => exact Or.inl rfl
  | next first others ih =>
    rcases first.ended with ⟨-, callbacks⟩ | ⟨message, panicked, -⟩
    · simp only [Device.MayPanic, callbacks] at ih
      exact ih
    · cases panicked
  | stopped first observations =>
    rcases first.ended with ⟨returned, -⟩ | ⟨message, panicked, may⟩
    · cases returned
    · exact Or.inr ⟨message, panicked, may⟩

end NotifiedInTurn

/-- What a query that has found a name and a state tells the device. -/
def findings (devName : String) (state : LinkState) : List Observation :=
  [.devName devName, .upDown state.up, .mtu state.mtu]

/-- A refresh is a query and, when it succeeds, the three notifications. -/
theorem outcome_refresh (backend : Backend η ε) (s : DeviceState η ε) :
    outcome (refresh backend) s =
      outcome (do
        let (devName, state) ← onManager (s.device.query backend)
        List.forM [.devName devName, .upDown state.up, .mtu state.mtu]
          (notify backend)) s := by
  simp [refresh, outcome_bind, List.forM]

/-- The ways in which a refresh goes: the query fails and only the session has
changed, or the findings of the query are left to notify the device of. -/
theorem refresh_queried (answers : backend.Answers)
    (sound : s.manager.Sound backend (s.device :: rest)) :
    ∃ session,
      (backend.Discreet → session.changes = s.manager.session.changes) ∧
      (s.manager.withSession session).Sound backend (s.device :: rest) ∧
      let queried : DeviceState η ε :=
        { s with manager := s.manager.withSession session }
      ((∃ e, outcome (s.device.query backend) s.manager =
          (.error (.error e), queried.manager) ∧
        outcome (refresh backend) s = (.error (.error e), queried)) ∨
      ∃ devName state, outcome (s.device.query backend) s.manager =
          (.ok (devName, state), queried.manager) ∧
        outcome (refresh backend) s = outcome
          ((findings devName state).forM (notify backend)) queried) := by
  obtain ⟨result, session, querying, sound', unreported, answered⟩ :=
    Device.query_sound answers sound List.mem_cons_self
  refine ⟨session, unreported, sound', ?_⟩
  have houtcome := outcome_refresh backend s
  rw [outcome_bind, outcome_onManager, querying] at houtcome
  rcases result with (e | message) | ⟨devName, state⟩
  · exact Or.inl ⟨e, querying, houtcome⟩
  · exact absurd rfl (answered message)
  · exact Or.inr ⟨devName, state, querying, houtcome⟩

/-- A refresh fails with the query and has changed nothing but the session, or
the notifications of what was found are all that is left of it. -/
theorem refresh_cases (answers : backend.Answers)
    (sound : s.manager.Sound backend (s.device :: rest)) :
    (∃ e session,
      outcome (refresh backend) s = (.error (.error e),
        { s with manager := s.manager.withSession session }) ∧
      (s.manager.withSession session).Sound backend (s.device :: rest)) ∨
    ∃ devName state session result t,
      outcome (s.device.query backend) s.manager =
        (.ok (devName, state), s.manager.withSession session) ∧
      outcome (refresh backend) s = (result, t) ∧
      (s.manager.withSession session).Sound backend (s.device :: rest) ∧
      NotifiedInTurn backend rest
        { s with manager := s.manager.withSession session }
        [.devName devName, .upDown state.up, .mtu state.mtu] result t := by
  obtain ⟨session, -, sound', ⟨e, -, failing⟩ |
    ⟨devName, state, querying, left⟩⟩ := refresh_queried answers sound
  · exact Or.inl ⟨e, session, failing, sound'⟩
  · obtain ⟨result, t, notifying, inTurn⟩ := forM_notify_inTurn answers
      (s := { s with manager := s.manager.withSession session }) sound'
      (findings devName state)
    exact Or.inr ⟨devName, state, session, result, t, querying,
      left.trans notifying, sound', inTurn⟩

/-- A refresh panics only if one of the callbacks does. -/
theorem refresh_advance (answers : backend.Answers)
    (sound : s.manager.Sound backend (s.device :: rest)) :
    ∃ result t, outcome (refresh backend) s = (result, t) ∧
      Advance backend rest s t ∧
      ∀ message, result = .error (.panic message) →
        s.device.MayPanic message := by
  rcases refresh_cases answers sound
    with ⟨e, session, failing, sound'⟩ |
      ⟨devName, state, session, result, t, -, refreshing, sound', inTurn⟩
  · refine ⟨_, _, failing, ⟨sound', rfl, Nat.le_refl _⟩, ?_⟩
    intro message panicked
    cases panicked
  · have first : Advance backend rest s
        { s with manager := s.manager.withSession session } :=
      ⟨sound', rfl, Nat.le_refl _⟩
    refine ⟨result, t, refreshing, first.trans (inTurn.advance sound'), ?_⟩
    rintro message rfl
    rcases inTurn.ended with returned | ⟨message, panicked, may⟩
    · cases returned
    · cases panicked
      exact may

end DeviceState

end InterfaceManager

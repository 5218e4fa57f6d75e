import InterfaceManager.Proofs.CommandLine.Show

/-!
# Commands that complain

A command writes about what it has done only when nothing of it can fail any
more.  So whoever reads a complaint has been told nothing else.  A watch
writes while it polls, and so this holds of it for a single poll.
-/

namespace InterfaceManager.CommandLine

open InterfaceManager.Action

variable {config : NamespaceConfig}

/-- The device of a command has just been registered. -/
structure Opened (config : NamespaceConfig) (w : Station) : Prop where
  sound : w.manager.Sound (Machine.backend config) [w.device]
  registered : w.device.isRegistered = true
  uncalled : w.device.callback = fun _ => none
  unreported : w.reports = []

theorem opened_of_register {selection : Selection} {m : Machine} {w : Station}
    (registering : outcome (DeviceState.register (Machine.backend config))
      (selection.station (.start m)) = (.ok (), w)) : Opened config w := by
  have answers := (Machine.backend_calm config).answers
  have sound := station_sound config m selection
  have soundAfter := sound_after
    (DeviceState.register_performed answers (fun _ => True) sound) registering
  rcases DeviceState.register_cases answers sound rfl
    with ⟨context, devName, opened, -, done, -⟩ | ⟨e, failed, failing, -⟩
  · rw [done] at registering
    cases registering
    refine ⟨soundAfter, rfl, ?_, rfl⟩
    funext kind
    cases kind <;> rfl
  · rw [failing] at registering
    cases registering

/-- On a registered device the task ends with sound books, and if it ends with
a complaint then it has written nothing. -/
def Reserved (config : NamespaceConfig) (task : Task Station Unit) : Prop :=
  ∀ w, Opened config w → ∀ written, ∃ result d,
    outcome (ExceptT.run task) ⟨w, written⟩ = (.ok result, d) ∧
    d.work.manager.Sound (Machine.backend config) [d.work.device] ∧
    ∀ complaint, result = .error complaint → d.written = written

/-- A command with a reserved task has written nothing if it complains. -/
theorem Reserved.withDevice {task : Task Station Unit}
    (reserved : Reserved config task) (selection : Selection) (m : Machine) :
    ∃ result d,
      outcome (ExceptT.run (withDevice config selection task))
        ⟨.start m, []⟩ = (.ok result, d) ∧
      ∀ complaint, result = .error complaint → d.written = [] := by
  obtain ⟨result, w, registering, advance, answered⟩ :=
    DeviceState.register_performed (Machine.backend_calm config).answers
      (fun _ => False) (station_sound config m selection)
  rcases result with (e | message) | ⟨⟩
  · obtain ⟨freed, freeing, -⟩ := DeviceState.free_returns advance.sound
    obtain ⟨attempt, complaining⟩ :=
      outcome_withDevice_unopened [] task registering freeing
    exact ⟨_, _, complaining, fun _ _ => rfl⟩
  · exact (answered message rfl).elim
  · obtain ⟨result, d, working, sound, silent⟩ :=
      reserved w (opened_of_register registering) []
    obtain ⟨freed, freeing, -⟩ := DeviceState.free_returns sound
    exact ⟨result, _, outcome_withDevice_opened registering working freeing,
      silent⟩

/-! ## Showing and watching -/

theorem outcome_devName (w : Station) (written : Lines) :
    outcome (ExceptT.run devName) ⟨w, written⟩ =
      (.ok (.ok (w.device.devName.getD "")), ⟨w, written⟩) := rfl

/-- The complaint about a query that failed. -/
def unread (e : Error) : Complaint :=
  "Failed to read link state" :: e.message :: e.causes

section Refresh

variable {w t : Station} {written : Lines}

theorem outcome_refresh_ok
    (refreshing : outcome (DeviceState.refresh (Machine.backend config)) w =
      (.ok (), t)) :
    outcome (ExceptT.run (refresh config)) ⟨w, written⟩ =
      (.ok (.ok ()), ⟨t, written⟩) :=
  Task.outcome_attempting_ok _ refreshing

theorem outcome_refresh_error {e : Error}
    (refreshing : outcome (DeviceState.refresh (Machine.backend config)) w =
      (.error (.error e), t)) :
    outcome (ExceptT.run (refresh config)) ⟨w, written⟩ =
      (.ok (.error (unread e)), ⟨t, written⟩) :=
  Task.outcome_attempting_error _ refreshing

/-- The lines about the reports of a poll come before its complaint. -/
theorem outcome_poll {result : Except Complaint Unit}
    (refreshing : outcome (ExceptT.run (refresh config)) ⟨w, written⟩ =
      (.ok result, ⟨t, written⟩)) :
    outcome (ExceptT.run (poll config 1)) ⟨w, written⟩ =
      (.ok result, ⟨{ t with reports := [] },
        written ++ t.reports.filterMap reportLine?⟩) := by
  rw [poll, Task.outcome_bind, ExceptT.run_lift, outcome_map, refreshing]
  dsimp only [Except.map]
  rw [Task.outcome_bind]
  cases result <;> rfl

end Refresh

theorem showInterface_reserved (json : Bool) :
    Reserved config (showInterface config json) := by
  intro w opened written
  obtain ⟨result, t, refreshing, advance, may⟩ := DeviceState.refresh_advance
    (Machine.backend_calm config).answers opened.sound
  rcases result with (e | message) | ⟨⟩
  · refine ⟨.error (unread e), ⟨t, written⟩, ?_, advance.sound,
      fun _ _ => rfl⟩
    rw [showInterface, Task.outcome_bind, outcome_refresh_error refreshing]
  · obtain ⟨kind, callback, set, -⟩ := may message rfl
    rw [opened.uncalled] at set
    cases set
  · let report := InterfaceReport.ofDevice t.device
    refine ⟨.ok (), ⟨t, written ++ report.written json⟩, ?_, advance.sound, ?_⟩
    · rw [showInterface, Task.outcome_bind, outcome_refresh_ok refreshing]
      dsimp only
      rw [Task.outcome_bind, Task.outcome_simply]
      exact Task.outcome_write _ _
    · rintro complaint ⟨⟩

/-- A watched device, whose callbacks do nothing but report. -/
def watched (w : Station) (interval : Nat) : Station :=
  { w with
    device := { w.device with
      onUpDown := some [], onDevName := some [], onMtu := some [] }
    manager := w.manager.withSession (w.manager.session.noting
      (.watching (w.device.devName.getD "") interval)) }

/-- What a watch does after its preparations, with its last notice. -/
def watching (config : NamespaceConfig) (polls : Nat) (last : Notice) :
    Task Station Unit := do
  poll config polls
  Task.simply (DeviceState.note last)
  Task.plainly DeviceState.unregister

/-- The last notice of a watch. -/
def parting (count : Option Nat) : Notice :=
  match count with
  | some _ => .pollLimitReached (max 1 (count.getD 1))
  | none => .interrupted

theorem parting_isRefusal (count : Option Nat) :
    (parting count).isRefusal = false := by
  cases count <;> rfl

theorem outcome_watchInterface (w : Station) (written : Lines)
    (interval : Nat) (count : Option Nat) :
    outcome (ExceptT.run (watchInterface config interval count))
        ⟨w, written⟩ =
      outcome
        (ExceptT.run
          (watching config (max 1 (count.getD 1)) (parting count)))
        ⟨watched w interval, written⟩ := by
  rw [watchInterface, Task.outcome_bind, Task.outcome_simply,
    DeviceState.outcome_changeDevice]
  dsimp only [Except.map]
  rw [Task.outcome_bind, outcome_devName]
  dsimp only
  rw [Task.outcome_bind, Task.outcome_simply, DeviceState.outcome_note]
  rfl

theorem watched_sound {w : Station}
    (sound : w.manager.Sound (Machine.backend config) [w.device])
    (interval : Nat) :
    (watched w interval).manager.Sound (Machine.backend config)
      [(watched w interval).device] := by
  have coherent := sound.coherent w.device List.mem_cons_self
  have changed := DeviceState.Advance.change sound
    (d := (watched w interval).device) rfl rfl
    ⟨coherent.named, coherent.forgotten⟩
  exact changed.sound.noting rfl

/-- The callbacks of a watch do not panic. -/
theorem watched_not_mayPanic (w : Station) (interval : Nat)
    (message : String) : ¬ (watched w interval).device.MayPanic message := by
  rintro ⟨kind, callback, set, panics⟩
  have empty : callback = [] := by
    cases kind <;> cases set <;> rfl
  rw [empty] at panics
  cases panics

/-- A watch that polls once complains about the query or not at all. -/
theorem watchInterface_reserved (interval : Nat) {count : Option Nat}
    (single : count.getD 1 ≤ 1) :
    Reserved config (watchInterface config interval count) := by
  intro w opened written
  have answers := (Machine.backend_calm config).answers
  have once : max 1 (count.getD 1) = 1 := Nat.max_eq_left single
  rw [outcome_watchInterface, once, watching, Task.outcome_bind]
  rcases DeviceState.refresh_cases answers
      (watched_sound opened.sound interval)
    with ⟨e, session, failing, sound⟩ |
      ⟨devName, state, session, result, t, -, refreshing, sound, inTurn⟩
  · -- Nothing has been reported, so nothing is written.
    rw [outcome_poll (outcome_refresh_error failing)]
    refine ⟨.error (unread e), _, rfl, sound, ?_⟩
    intro _ _
    simp [watched, opened.unreported]
  · have returned : result = .ok () := by
      rcases inTurn.ended with returned | ⟨message, -, may⟩
      · exact returned
      · exact absurd may (watched_not_mayPanic w interval message)
    subst returned
    rw [outcome_poll (outcome_refresh_ok refreshing)]
    have bound : t.device.context.isSome = true := by
      rw [inTurn.context]
      exact opened.registered
    obtain ⟨context, held⟩ := Option.isSome_iff_exists.mp bound
    have after := (inTurn.advance sound).sound
    dsimp only
    rw [Task.outcome_bind, Task.outcome_simply, DeviceState.outcome_note]
    dsimp only [Except.map]
    obtain ⟨m, unregistering, sound', -⟩ := DeviceState.unregister_succeeds
      (s := { t with
        manager := t.manager.withSession
          (t.manager.session.noting (parting count))
        reports := [] }) (after.noting (parting_isRefusal count)) held
    exact ⟨.ok (), _, Task.outcome_plainly_ok unregistering, sound',
      by rintro complaint ⟨⟩⟩

end InterfaceManager.CommandLine

import InterfaceManager.Proofs.Device.Happening
import InterfaceManager.Proofs.Device.History
import InterfaceManager.Proofs.Device.Keeping

/-!
# Callbacks are called for what is new

The callbacks of a device that do not panic are called for just those
notifications that are new to it, whatever the steps of a run are.  A
notification calls the callback of its kind at most once and leaves it in
its place.  A refresh is nothing but notifications, and an operation that
fails is nothing that happens to the device.
-/

namespace InterfaceManager

open InterfaceManager.Action

namespace DeviceState

variable {backend : Backend η ε} {s t : DeviceState η ε}
  {rest : List (Device ε)} {past : List (Happening ε)}

/-- A call adds one report about a call if the callback is set, and none
otherwise. -/
theorem call_seen (backend : Backend η ε) {view : Report ε → Option β}
    (silent : ∀ r : Report ε, r.call? = none → view r = none)
    (observation : Observation) (s : DeviceState η ε) :
    (outcome (call backend observation) s).2.reports.filterMap view =
      s.reports.filterMap view ++
        if (s.device.callback observation.kind).isSome = true
        then (view (.called observation
          (s.device.setCallback none observation.kind))).toList
        else [] := by
  rcases set : s.device.callback observation.kind with _ | callback
  · simp [call, outcome_bind, set]
  · let away : DeviceState η ε :=
      { s with
        device := s.device.setCallback none observation.kind
        reports := s.reports ++ [.called observation
          (s.device.setCallback none observation.kind)] }
    have continues : outcome (call backend observation) s =
        outcome (do
          callback.forM (follow backend)
          changeDevice fun device =>
            device.setCallback (some callback) observation.kind) away := by
      simp [call, outcome_bind, set, away]
    have keeps : Keeps (fun t : DeviceState η ε =>
        t.reports.filterMap view = away.reports.filterMap view) (do
          callback.forM (follow backend)
          changeDevice fun device =>
            device.setCallback (some callback) observation.kind) := by
      apply Keeps.bind
      · exact .forM fun instruction _ => follow_keeps_seen silent _ instruction
      · intro _
        exact changeDevice_keeps fun _ same => same
    rw [continues, keeps away rfl]
    simp only [away, List.filterMap_append, Option.isSome_some, if_true]
    congr 1

/-- A device whose callbacks do not panic hears of an observation once if
there is a callback for it, and is as it was afterwards. -/
theorem call_heard (answers : backend.Answers)
    (sound : s.manager.Sound backend (s.device :: rest))
    (quiet : ∀ message, ¬ s.device.MayPanic message)
    (observation : Observation) :
    ∃ t, outcome (call backend observation) s = (.ok (), t) ∧
      Undisturbed backend rest s t ∧
      t.reports.filterMap (Report.heardBy s.device.id) =
        s.reports.filterMap (Report.heardBy s.device.id) ++
          if (s.device.callback observation.kind).isSome = true
          then [⟨observation, s.device.observed⟩] else [] := by
  have seen := call_seen backend (Report.heardBy_of_silent s.device.id)
    observation s
  have sees : Report.heardBy s.device.id (.called observation
      (s.device.setCallback none observation.kind)) =
        some ⟨observation, s.device.observed⟩ := by
    rw [Report.heardBy, if_pos (s.device.id_setCallback none _),
      Device.observed_setCallback]
  rcases call_cases answers sound observation
    with ⟨t, calling, returned⟩ | ⟨message, t, calling, may, -⟩
  · rw [calling, sees] at seen
    exact ⟨t, calling, returned, seen⟩
  · exact absurd may (quiet message)

/-- The device is like what has happened to it, and its callbacks have been
called for that. -/
structure Told (s : DeviceState η ε) (past : List (Happening ε)) : Prop where
  fits : s.device.Matches past
  heard : s.reports.filterMap (Report.heardBy s.device.id) =
    Happening.heard past

/-- From `s` to `t` the device has advanced, and what has happened to it is
now `past`. -/
structure Went (backend : Backend η ε) (rest : List (Device ε))
    (s t : DeviceState η ε) (past : List (Happening ε)) : Prop
    extends Advance backend rest s t where
  told : t.Told past

theorem Told.unheeded (told : s.Told past) {observation : Observation}
    (ignores : ¬ Heeds s.device observation) (device : t.device = s.device)
    (reports : t.reports = s.reports) :
    t.Told (.notified observation :: past) where
  fits := by
    rw [device]
    exact told.fits.unheeded ignores
  heard := by
    rw [device, reports, told.heard, Happening.heard,
      Happening.calls_of_unheeded told.fits ignores, List.append_nil]

theorem Told.heeded (told : s.Told past) {observation : Observation}
    (heeds : Heeds s.device observation)
    (device : t.device = s.device.store observation)
    (sees : t.reports.filterMap (Report.heardBy s.device.id) =
      s.reports.filterMap (Report.heardBy s.device.id) ++
        if (s.device.callback observation.kind).isSome = true
        then [⟨observation, Happening.meanwhile past observation⟩] else []) :
    t.Told (.notified observation :: past) where
  fits := by
    rw [device]
    exact told.fits.store heeds.registered observation
  heard := by
    rw [device, Device.id_store, sees, told.heard, Happening.heard,
      Happening.calls_of_heeds told.fits heeds]

section Notify

variable (answers : backend.Answers)
  (sound : s.manager.Sound backend (s.device :: rest)) (told : s.Told past)
  (peaceful : Happening.Peaceful past)

include answers sound told peaceful

/-- While the callback of a rename runs, everything is as before. -/
theorem notify_told_of_renamed {name : String}
    (heeds : Heeds s.device (.devName name)) :
    (outcome (notify backend (.devName name)) s).2.Told
      (.notified (.devName name) :: past) := by
  have noted : (noticing s (.devName name)).manager.Sound backend
      ((noticing s (.devName name)).device :: rest) := sound.noting rfl
  obtain ⟨t, calling, returned, sees⟩ := call_heard answers noted
    (peaceful.not_mayPanic told.fits) (.devName name)
  have before : s.device.observed =
      Happening.meanwhile past (.devName name) := by
    funext kind
    exact told.fits.observed kind
  rw [outcome_notify_renamed backend s heeds.registered heeds.new,
    outcome_bind, calling]
  apply told.heeded heeds
  · exact congrArg (fun d => d.store (.devName name)) returned.device
  · rw [← before]
    exact sees

/-- While the callback for another value runs, the value is known. -/
theorem notify_told_of_changed {observation : Observation}
    (heeds : Heeds s.device observation)
    (other : observation.kind ≠ .devName) :
    (outcome (notify backend observation) s).2.Told
      (.notified observation :: past) := by
  have fits := told.fits.store heeds.registered observation
  have callbacks := s.device.store_callback observation
  have quiet : ∀ message,
      ¬ (storing s observation).device.MayPanic message :=
    fun message => (peaceful.notified observation).not_mayPanic fits message
  obtain ⟨t, calling, returned, sees⟩ := call_heard answers
    (storing_advance sound heeds).sound quiet observation
  have stored : (s.device.store observation).observed =
      Happening.meanwhile past observation := by
    rw [Happening.meanwhile, if_neg other]
    funext kind
    exact fits.observed kind
  rw [outcome_notify_changed backend s heeds.registered other heeds.new,
    calling]
  apply told.heeded heeds returned.device
  rw [← stored, ← callbacks, ← s.device.id_store observation]
  exact sees

/-- The callbacks are called for a notification according to what has
happened before. -/
theorem notify_told (observation : Observation) :
    ∃ t, outcome (notify backend observation) s = (.ok (), t) ∧
      Went backend rest s t (.notified observation :: past) := by
  obtain ⟨result, t, notifying, notified⟩ :=
    notify_notified answers sound observation
  have returns : result = .ok () := by
    rcases notified.ended with ⟨returned, -⟩ | ⟨message, -, may⟩
    · exact returned
    · exact absurd may (peaceful.not_mayPanic told.fits message)
  subst returns
  refine ⟨t, notifying, { notified.advance sound with told := ?_ }⟩
  have same : (outcome (notify backend observation) s).2 = t :=
    congrArg Prod.snd notifying
  by_cases heeds : Heeds s.device observation
  · rw [← same]
    cases observation with
    | devName name =>
      exact notify_told_of_renamed answers sound told peaceful heeds
    | upDown up =>
      apply notify_told_of_changed answers sound told peaceful heeds
      intro same
      cases same
    | mtu mtu =>
      apply notify_told_of_changed answers sound told peaceful heeds
      intro same
      cases same
  · cases notified with
    | ignored unregistered observation => exact told.unheeded heeds rfl rfl
    | known known => exact told.unheeded heeds rfl rfl
    | renamed taken _ => exact absurd taken heeds
    | changed taken _ => exact absurd taken heeds

/-- So they are for notifications in turn. -/
theorem forM_notify_told (observations : List Observation) :
    ∃ t, outcome (observations.forM (notify backend)) s = (.ok (), t) ∧
      Went backend rest s t
        ((observations.map .notified).reverse ++ past) := by
  induction observations generalizing s past with
  | nil => exact ⟨s, rfl, { Advance.refl sound with told := told }⟩
  | cons observation observations ih =>
    obtain ⟨t, notifying, first⟩ :=
      notify_told answers sound told peaceful observation
    obtain ⟨u, going, others⟩ :=
      ih first.sound first.told (peaceful.notified observation)
    refine ⟨u, ?_, { first.trans others.toAdvance with told := ?_ }⟩
    · rw [List.forM, outcome_bind, notifying]
      exact going
    · rw [List.map_cons, List.reverse_cons, List.append_assoc]
      exact others.told

end Notify

/-! ## Operations -/

section

variable (backend : Backend η ε) (s : DeviceState η ε)

/-- What happens to a device in an operation, the latest first.  An operation
that fails is nothing that happens. -/
def happenings : DeviceOperation ε → List (Happening ε)
  | .setCallback kind callback => [.installed kind callback]
  | .register =>
    match (outcome (register backend) s).1,
      (outcome (Manager.attach backend s.device)
        (s.manager.inside s.device.registering)).1 with
    | .ok (), .ok (_, devName) => [.registered devName]
    | _, _ => []
  | .unregister =>
    match (outcome unregister s).1 with
    | .ok () => [.unregistered]
    | .error _ => []
  | .notify observation => [.notified observation]
  | .refresh =>
    match (outcome (s.device.query backend) s.manager).1 with
    | .ok (devName, state) =>
      [.notified (.mtu state.mtu), .notified (.upDown state.up),
        .notified (.devName devName)]
    | .error _ => []
  | _ => []

end

/-- What the callbacks neither see nor are does not matter. -/
theorem Told.congr (told : s.Told past) (id : t.device.id = s.device.id)
    (registered : t.device.isRegistered = s.device.isRegistered)
    (observed : t.device.observed = s.device.observed)
    (callback : t.device.callback = s.device.callback)
    (reports : t.reports = s.reports) : t.Told past where
  fits := told.fits.congr registered observed callback
  heard := by
    rw [id, reports]
    exact told.heard

theorem Told.withManager (told : s.Told past) (m : Manager η) :
    Told { s with manager := m } past :=
  told.congr rfl rfl rfl rfl rfl

theorem configure_told (told : s.Told past) {change : Device ε → Device ε}
    (id : (change s.device).id = s.device.id)
    (registered : (change s.device).isRegistered = s.device.isRegistered)
    (observed : (change s.device).observed = s.device.observed)
    (callback : (change s.device).callback = s.device.callback) :
    (outcome (do
      ensureUnregistered
      changeDevice change) s).2.Told past := by
  rw [outcome_configure]
  split
  · exact told
  · exact told.congr id registered observed callback rfl

theorem onInterface_told (told : s.Told past)
    (act : Device ε → Action (Manager η) Unit) :
    (outcome (onInterface act) s).2.Told past := by
  rw [onInterface, outcome_bind, outcome_getDevice]
  dsimp only
  rw [outcome_onManager]
  exact told.withManager _

theorem register_told (answers : backend.Answers)
    (sound : s.manager.Sound backend (s.device :: rest)) (told : s.Told past) :
    (outcome (register backend) s).2.Told
      (happenings backend s .register ++ past) := by
  rcases held : s.device.context with _ | context
  · rcases register_cases answers sound held
      with ⟨context, devName, m, attaching, registering, -⟩ |
        ⟨e, m, failing, -⟩
    · rw [happenings, registering, attaching]
      refine ⟨?_, told.heard⟩
      exact told.fits.attached (sound.coherent _ List.mem_cons_self) held
        context devName
    · rw [happenings, failing]
      exact told.withManager m
  · rw [happenings, outcome_register_registered backend
      (Device.isRegistered_eq_true held)]
    exact told

theorem unregister_told (sound : s.manager.Sound backend (s.device :: rest))
    (told : s.Told past) :
    (outcome unregister s).2.Told
      (happenings backend s .unregister ++ past) := by
  rcases held : s.device.context with _ | context
  · rw [happenings, outcome_unregister_unbound held]
    exact told
  · obtain ⟨m, unregistering, -⟩ := unregister_succeeds sound held
    rw [happenings, unregistering]
    exact ⟨told.fits.detached, told.heard⟩

theorem refresh_told (answers : backend.Answers)
    (sound : s.manager.Sound backend (s.device :: rest)) (told : s.Told past)
    (peaceful : Happening.Peaceful past) :
    (outcome (refresh backend) s).2.Told
      (happenings backend s .refresh ++ past) := by
  obtain ⟨queried, session, querying, sound', -, -⟩ :=
    Device.query_sound answers sound List.mem_cons_self
  have first := told.withManager (s.manager.withSession session)
  rw [outcome_refresh, outcome_bind, outcome_onManager, happenings, querying]
  rcases queried with f | ⟨devName, state⟩
  · exact first
  · obtain ⟨t, notifying, went⟩ := forM_notify_told answers sound' first
      peaceful [.devName devName, .upDown state.up, .mtu state.mtu]
    have done := congrArg Prod.snd notifying
    exact done ▸ went.told

/-- Every operation keeps a device like what has happened to it, and calls
the callbacks for that. -/
theorem perform_told (answers : backend.Answers)
    (sound : s.manager.Sound backend (s.device :: rest)) (told : s.Told past)
    (peaceful : Happening.Peaceful past) (operation : DeviceOperation ε) :
    (outcome (perform backend operation) s).2.Told
      (happenings backend s operation ++ past) := by
  cases operation with
  | setIfindex ifindex => exact configure_told told rfl rfl rfl rfl
  | setNetns netns => exact configure_told told rfl rfl rfl rfl
  | setOwnerData data => exact told.congr rfl rfl rfl rfl rfl
  | takeOwnerData => exact told.congr rfl rfl rfl rfl rfl
  | setCallback kind callback =>
    refine ⟨told.fits.setCallback kind callback, ?_⟩
    have id : (s.device.setCallback callback kind).id = s.device.id :=
      s.device.id_setCallback callback kind
    have same := told.heard
    rw [← id] at same
    exact same
  | register => exact register_told answers sound told
  | unregister => exact unregister_told sound told
  | bringUpDown up => exact onInterface_told told _
  | addAddress address length => exact onInterface_told told _
  | addRoute destination length gateway => exact onInterface_told told _
  | refresh => exact refresh_told answers sound told peaceful
  | notify observation =>
    obtain ⟨t, notifying, went⟩ :=
      notify_told answers sound told peaceful observation
    rw [perform, notifying]
    exact went.told

end DeviceState

/-! ## Runs -/

namespace Fleet

section

variable (backend : Backend η ε) (id : DeviceId)

/-- What happens in a step to the device with an identity. -/
def happenings (f : Fleet η ε) : FleetStep ε → List (Happening ε)
  | .operate label operation =>
    match f.devices.at? label with
    | some d =>
      if d.id = id
      then DeviceState.happenings backend (f.working d) operation
      else []
    | none => []
  | _ => []

/-- What has happened to the device with an identity after the steps of a
run, if `past` has happened before. -/
def chronicle (f : Fleet η ε) (past : List (Happening ε)) :
    List (FleetStep ε) → List (Happening ε)
  | [] => past
  | s :: steps =>
    chronicle (outcome (step backend s) f).2
      (happenings backend id f s ++ past) steps

/-- The device with an identity, if there is one, is like what has happened
to it, and its callbacks have been called for that. -/
structure Tells (f : Fleet η ε) (past : List (Happening ε)) : Prop where
  fits : ∀ d ∈ f.live, d.id = id → d.Matches past
  heard : f.reports.filterMap (Report.heardBy id) = Happening.heard past
  unborn : f.manager.registry.next ≤ id.number → past = []

end

variable {backend : Backend η ε} {f : Fleet η ε} {id : DeviceId}
  {past : List (Happening ε)} {label : String} {d : Device ε}

theorem mem_chronicle {happening : Happening ε} (known : happening ∈ past)
    (steps : List (FleetStep ε)) :
    happening ∈ chronicle backend id f past steps := by
  induction steps generalizing f past with
  | nil => exact known
  | cons s steps ih => exact ih (List.mem_append_right _ known)

theorem tells_start (host : η) (id : DeviceId) :
    (start host : Fleet η ε).Tells id [] where
  fits := by
    intro d hd
    cases hd
  heard := rfl
  unborn _ := rfl

/-- Another device under its label, or none, is all that an allocation and a
release of a device change. -/
theorem Tells.congr (tells : f.Tells id past) {g : Fleet η ε}
    (reports : g.reports = f.reports)
    (next : f.manager.registry.next ≤ g.manager.registry.next)
    (live : ∀ d ∈ g.live, d ∈ f.live ∨
      ∃ name, d = f.nextDevice name) : g.Tells id past where
  fits := by
    rintro d hd rfl
    rcases live d hd with old | ⟨name, rfl⟩
    · exact tells.fits d old rfl
    · rw [tells.unborn (Nat.le_refl _)]
      exact .fresh _ name
  heard := by
    rw [reports]
    exact tells.heard
  unborn later := tells.unborn (Nat.le_trans next later)

/-- An operation of a device is nothing that happens to another one. -/
theorem Tells.operate_other (answers : backend.Answers)
    (tells : f.Tells id past) (other : d.id ≠ id)
    (operation : DeviceOperation ε)
    (next : f.manager.registry.next ≤
      (outcome (DeviceState.perform backend operation)
        (f.working d)).2.manager.registry.next) :
    (f.worked label (outcome (DeviceState.perform backend operation)
      (f.working d)).2).Tells id past := by
  have lasting : Manager.Lasting backend fun _ : Manager η => True :=
    .of_host (J := fun _ => True) (answers.mono fun _ _ _ _ => trivial)
      fun _ _ _ => trivial
  have upholds : DeviceState.Upholds (fun _ : Manager η => True)
      fun s : DeviceState η ε => s.device.id ≠ id ∧
        s.reports.filterMap (Report.heardBy id) = Happening.heard past := by
    constructor
    · intro α act _ s hs
      rw [DeviceState.outcome_onManager]
      exact hs
    · rintro s d same ⟨apart, heard⟩
      exact ⟨same.trans_ne apart, heard⟩
    · rintro s r about ⟨apart, heard⟩
      refine ⟨apart, ?_⟩
      have silent : r.heardBy id = none := by
        cases r with
        | called observation device =>
          rw [about observation device rfl, Report.heardBy, if_neg apart]
        | followed result => rfl
        | saw names => rfl
      simpa [silent] using heard
  obtain ⟨apart, heard⟩ := DeviceState.perform_keeps lasting upholds operation
    (f.working d) ⟨other, tells.heard⟩
  refine ⟨?_, heard, fun later => tells.unborn (Nat.le_trans next later)⟩
  rintro e he rfl
  rcases List.mem_cons.mp he with rfl | old
  · exact absurd rfl apart
  · exact tells.fits e (mem_live_of_mem_others old) rfl

theorem Tells.operate_self (answers : backend.Answers)
    (sound : f.Sound backend) (tells : f.Tells d.id past)
    (peaceful : Happening.Peaceful past)
    (found : f.devices.at? label = some d) (operation : DeviceOperation ε) :
    (f.worked label (outcome (DeviceState.perform backend operation)
      (f.working d)).2).Tells d.id
        (DeviceState.happenings backend (f.working d) operation ++ past) := by
  have books : (f.working d).manager.Sound backend
      ((f.working d).device :: f.others label) := sound.select found
  have alive : d ∈ f.live :=
    (live_perm sound found).mem_iff.mpr List.mem_cons_self
  have told : (f.working d).Told past :=
    ⟨tells.fits d alive rfl, tells.heard⟩
  have went := DeviceState.perform_told answers books told peaceful operation
  obtain ⟨result, t, performing, advance, -⟩ :=
    DeviceState.perform_performed answers books operation
  rw [performing] at went ⊢
  have same : t.device.id = d.id := advance.id
  refine ⟨?_, ?_, ?_⟩
  · intro e he eq
    rcases List.mem_cons.mp he with rfl | old
    · exact went.fits
    · exact absurd eq (books.apart e old)
  · have heard := went.heard
    rw [same] at heard
    exact heard
  · intro later
    have young := sound.books.id_lt_next alive
    have grown : f.manager.registry.next ≤ t.manager.registry.next :=
      advance.next
    exact absurd (Nat.le_trans grown later) (Nat.not_le_of_lt young)

/-- Every step keeps the device like what has happened to it, and calls the
callbacks for that. -/
theorem step_tells (answers : backend.Answers) (sound : f.Sound backend)
    (tells : f.Tells id past) (peaceful : Happening.Peaceful past)
    (s : FleetStep ε) :
    (outcome (step backend s) f).2.Tells id
      (happenings backend id f s ++ past) := by
  obtain ⟨result, g, stepping, follows, -⟩ := step_follows answers sound s
  have stepped : (outcome (step backend s) f).2 = g :=
    congrArg Prod.snd stepping
  have next := follows.next
  rw [← stepped] at next
  cases s with
  | allocate label name =>
    obtain ⟨m, allocating⟩ := sound.outcome_allocate label name
    rw [allocating] at next ⊢
    refine tells.congr rfl next fun d hd => ?_
    rcases List.mem_cons.mp hd with rfl | old
    · exact Or.inr ⟨name, rfl⟩
    · exact Or.inl (mem_live_of_mem_others old)
  | free label =>
    rcases found : f.devices.at? label with _ | d
    · rw [outcome_step_free_missing found]
      exact tells
    · obtain ⟨m, freeing, -⟩ := Manager.free_succeeds (sound.select found)
      rw [outcome_step_free found freeing] at next ⊢
      exact tells.congr rfl next fun d hd =>
        Or.inl (mem_live_of_mem_others hd)
  | operate label operation =>
    rcases found : f.devices.at? label with _ | d
    · rw [outcome_step_missing found, happenings, found]
      exact tells
    · rw [outcome_step_operate found] at next ⊢
      rw [happenings, found]
      by_cases same : d.id = id
      · subst same
        simp only [if_true]
        exact tells.operate_self answers sound peaceful found operation
      · simp only [if_neg same]
        exact tells.operate_other answers same operation next
  | adjust change =>
    rw [outcome_step_adjust] at next ⊢
    exact tells.congr rfl next fun d hd => Or.inl hd

theorem run_tells (answers : backend.Answers) (sound : f.Sound backend)
    (tells : f.Tells id past) (steps : List (FleetStep ε))
    (peaceful : Happening.Peaceful (chronicle backend id f past steps)) :
    (run backend f steps).Tells id (chronicle backend id f past steps) := by
  induction steps generalizing f past with
  | nil => exact tells
  | cons s steps ih =>
    obtain ⟨result, g, stepping, follows, -⟩ := step_follows answers sound s
    have calm : Happening.Peaceful past := by
      intro happening known
      exact peaceful happening (mem_chronicle known (s :: steps))
    have first := step_tells answers sound tells calm s
    have stepped : (outcome (step backend s) f).2 = g :=
      congrArg Prod.snd stepping
    have sound' := follows.sound
    rw [← stepped] at sound'
    exact ih sound' first peaceful

/-- A notification of a device that is not registered is noticed, and that is
all. -/
theorem step_notify_ignored (found : f.devices.at? label = some d)
    (unregistered : d.isRegistered = false) (observation : Observation) :
    let done := outcome
      (step backend (.operate label (.notify observation))) f
    done.1 = .ok () ∧
    done.2.manager = f.manager.withSession (f.manager.session.noting
      (.observationIgnored d.name observation.kind.label)) ∧
    (∀ other, done.2.devices.at? other = f.devices.at? other) ∧
    done.2.reports = f.reports := by
  intro done
  have ignored := DeviceState.outcome_notify_ignored backend (f.working d)
    unregistered observation
  have stepping : done = outcome
      (step backend (.operate label (.notify observation))) f := rfl
  rw [outcome_step_operate found, DeviceState.perform, ignored] at stepping
  rw [stepping]
  exact ⟨rfl, rfl, Labelled.at?_put_self found, rfl⟩

/-- Let the callbacks set on a device return.  After every run its callbacks
have been called for just those notifications that were new to it when they
came, as long as it was registered and there was a callback of that kind;
while a callback ran the device knew the new value, but of a rename still
the old name; and the device knows what was notified last, with the
callbacks in their places.  A notification of a device that is not
registered changes nothing. -/
theorem run_calls_for_changes (backend : Backend η ε)
    (answers : backend.Answers) (host : η) (steps : List (FleetStep ε))
    (id : DeviceId)
    (peaceful : Happening.Peaceful
      (chronicle backend id (start host) [] steps)) :
    let f := run backend (start host) steps
    let past := chronicle backend id (start host) [] steps
    f.reports.filterMap (Report.heardBy id) = Happening.heard past ∧
    (∀ d ∈ f.live, d.id = id →
      d.isRegistered = Happening.isRegistered past ∧
      (∀ kind, d.observed kind = Happening.latest kind past) ∧
      ∀ kind, d.callback kind = Happening.current kind past) ∧
    ∀ label d observation, f.devices.at? label = some d →
      d.isRegistered = false →
      let done := outcome
        (step backend (.operate label (.notify observation))) f
      done.1 = .ok () ∧
      done.2.manager = f.manager.withSession (f.manager.session.noting
        (.observationIgnored d.name observation.kind.label)) ∧
      (∀ other, done.2.devices.at? other = f.devices.at? other) ∧
      done.2.reports = f.reports := by
  intro f past
  have tells : f.Tells id past := run_tells answers
    (sound_start backend host) (tells_start host id) steps peaceful
  refine ⟨tells.heard, ?_, ?_⟩
  · intro d hd same
    obtain ⟨registered, observed, callback⟩ := tells.fits d hd same
    exact ⟨registered, observed, callback⟩
  · intro label d observation found unregistered
    exact step_notify_ignored found unregistered observation

/-- The interface is observed with a callback for its state, and then with
one for its name as well; it is renamed, and registered anew. -/
def observeTunnel : List (FleetStep MemoryHost.Adjustment) :=
  selectTunnel "a" "tunnel" ++
    [.operate "a" (.setCallback .upDown (some [])),
      .operate "a" .register,
      .operate "a" (.notify (.upDown true)),
      .operate "a" (.notify (.upDown true)),
      .operate "a" (.setCallback .devName (some [.allocateBriefly "other"])),
      .adjust (.renameLink ⟨"ns", ⟨5⟩⟩ "tun1"),
      .operate "a" .refresh,
      .operate "a" .unregister,
      .operate "a" (.notify (.upDown true)),
      .operate "a" .register,
      .operate "a" (.notify (.upDown false))]

/-- The values for which callbacks are called, and the name that the device
has meanwhile. -/
theorem called_when_observeTunnel :
    let f := run MemoryHost.backend (start tunnelHost) observeTunnel
    let past :=
      chronicle MemoryHost.backend ⟨0⟩ (start tunnelHost) [] observeTunnel
    MemoryHost.backend.Answers ∧ Happening.Peaceful past ∧
    (f.reports.filterMap (Report.heardBy ⟨0⟩)).map
        (fun heard => (heard.observation, heard.known .devName)) =
      [(.upDown true, some (.devName "tun0")),
        (.devName "tun1", some (.devName "tun0")),
        (.upDown false, some (.devName "tun1")),
        (.upDown false, some (.devName "tun1"))] := by
  intro f past
  have answers := MemoryHost.backend_calm.answers
  have peaceful : Happening.Peaceful past := by decide +kernel
  obtain ⟨heard, -⟩ := run_calls_for_changes MemoryHost.backend answers
    tunnelHost observeTunnel ⟨0⟩ peaceful
  refine ⟨answers, peaceful, ?_⟩
  rw [heard]
  decide +kernel

end Fleet
end InterfaceManager

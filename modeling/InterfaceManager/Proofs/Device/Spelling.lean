import InterfaceManager.Proofs.InMemory.Isolation

/-!
# Two spellings of the default namespace

A device selects the default namespace by the empty name or by no name at
all.  A view of a device drops the empty name, and every operation looks the
same through this view: it goes by the key of the selected namespace, which
both spellings share.  So two runs that differ in nothing but the spelling
cannot be told apart except by asking a device for the name it was given.
-/

namespace InterfaceManager

open InterfaceManager.Action

/-- A spelling of a namespace, `silent` about the default one or not. -/
def spelling (silent : Bool) (netns : Option String) : Option String :=
  if silent then netns.filter (· != "") else netns

theorem spelling_getD (silent : Bool) (netns : Option String) :
    (spelling silent netns).getD "" = netns.getD "" := by
  cases silent with
  | false => rfl
  | true =>
    rcases netns with _ | netns
    · rfl
    · by_cases empty : netns = "" <;>
        simp [spelling, Option.filter, empty]

namespace Device

/-- The device without the empty name, if it is among `ids`. -/
def tacit (ids : List DeviceId) (d : Device ε) : Device ε :=
  { d with netns := spelling (ids.contains d.id) d.netns }

/-- Two devices that are the same but for the spelling of the default
namespace, and the same altogether unless they are among `ids`. -/
structure SameButSpelling (ids : List DeviceId) (d e : Device ε) : Prop where
  rest : e = { d with netns := e.netns }
  key : e.netnsKey = d.netnsKey
  spelling : d.id ∉ ids → e.netns = d.netns

section Tacit

variable (ids : List DeviceId) (d : Device ε)

theorem id_tacit : (d.tacit ids).id = d.id := rfl

theorem context_tacit : (d.tacit ids).context = d.context := rfl

theorem isRegistered_tacit : (d.tacit ids).isRegistered = d.isRegistered :=
  rfl

theorem netnsKey_tacit : (d.tacit ids).netnsKey = d.netnsKey :=
  spelling_getD _ _

theorem selected_tacit : (d.tacit ids).selected = d.selected := by
  rw [selected, selected, netnsKey_tacit]
  rfl

theorem callback_tacit (kind : ObservationKind) :
    (d.tacit ids).callback kind = d.callback kind := by
  cases kind <;> rfl

theorem setCallback_tacit (callback : Option (Callback ε))
    (kind : ObservationKind) :
    (d.tacit ids).setCallback callback kind =
      (d.setCallback callback kind).tacit ids := by
  cases kind <;> rfl

theorem observed_tacit (kind : ObservationKind) :
    (d.tacit ids).observed kind = d.observed kind := by
  cases kind <;> rfl

theorem store_tacit (observation : Observation) :
    (d.tacit ids).store observation = (d.store observation).tacit ids := by
  cases observation <;> rfl

theorem changeOf_tacit (observation : Observation) :
    observation.changeOf (d.tacit ids) = observation.changeOf d := by
  cases observation <;> rfl

theorem attach_tacit (backend : Backend η ε) :
    Manager.attach backend (d.tacit ids) = Manager.attach backend d := by
  rw [Manager.attach, Manager.attach, netnsKey_tacit]
  rfl

/-- Devices that look the same are so but for the spelling. -/
theorem sameButSpelling_of_tacit {ids : List DeviceId} {d e : Device ε}
    (same : d.tacit ids = e.tacit ids) : d.SameButSpelling ids e where
  rest := by
    cases d
    cases e
    simp only [tacit, mk.injEq] at same ⊢
    simp [same]
  key := by
    rw [← netnsKey_tacit ids e, ← same, netnsKey_tacit]
  spelling := by
    intro other
    have silent : ids.contains d.id = false := by simpa using other
    have known := congrArg Device.id same
    rw [id_tacit, id_tacit] at known
    have netns := congrArg Device.netns same
    rw [tacit, tacit, ← known, silent] at netns
    exact netns.symm

end Tacit
end Device

namespace Report

/-- The report with the device as it looks. -/
def tacit (ids : List DeviceId) : Report ε → Report ε
  | called observation device => called observation (device.tacit ids)
  | r => r

/-- Two reports of the same, about devices that are the same but for the
spelling of the default namespace. -/
inductive SameButSpelling (ids : List DeviceId) :
    Report ε → Report ε → Prop
  | called (observation : Observation) {d e : Device ε}
      (same : d.SameButSpelling ids e) :
      SameButSpelling ids (called observation d) (called observation e)
  | followed (result : Except Error Unit) :
      SameButSpelling ids (followed result) (followed result)
  | saw (names : List String) : SameButSpelling ids (saw names) (saw names)

theorem sameButSpelling_of_tacit {ids : List DeviceId} {r t : Report ε}
    (same : r.tacit ids = t.tacit ids) : r.SameButSpelling ids t := by
  cases r with
  | called observation d =>
    cases t with
    | called other e =>
      obtain ⟨rfl, looks⟩ := called.inj same
      exact .called observation (Device.sameButSpelling_of_tacit looks)
    | followed result => cases same
    | saw names => cases same
  | followed result =>
    cases t with
    | called observation e => cases same
    | followed other =>
      cases same
      exact .followed result
    | saw names => cases same
  | saw names =>
    cases t with
    | called observation e => cases same
    | followed result => cases same
    | saw other =>
      cases same
      exact .saw names

end Report

/-! ## Devices at work -/

namespace DeviceState

variable {ids : List DeviceId} {backend : Backend η ε}

/-- The device at work as it looks. -/
def tacit (ids : List DeviceId) (s : DeviceState η ε) : DeviceState η ε :=
  ⟨s.manager, s.device.tacit ids, s.reports.map (Report.tacit ids)⟩

theorem onManager_tacit (ids : List DeviceId)
    (act : Action (Manager η) α) :
    Mirrors (tacit (ε := ε) ids) (onManager act) (onManager act) := by
  intro s
  rw [outcome_onManager, outcome_onManager]
  rfl

/-- The device is read as it looks. -/
theorem getDevice_bind_tacit
    {next next' : Device ε → Action (DeviceState η ε) α}
    (hnext : ∀ d, Mirrors (tacit ids) (next d) (next' (d.tacit ids))) :
    Mirrors (tacit ids) (getDevice >>= next) (getDevice >>= next') :=
  fun s => hnext s.device s

theorem changeDevice_tacit {change : Device ε → Device ε}
    (same : ∀ d, change (d.tacit ids) = (change d).tacit ids) :
    Mirrors (tacit (η := η) ids) (changeDevice change)
      (changeDevice change) := by
  refine .modify fun s => ?_
  exact congrArg (DeviceState.mk s.manager · _) (same s.device)

theorem report_tacit (ids : List DeviceId) (r : Report ε) :
    Mirrors (tacit (η := η) ids) (report r) (report (r.tacit ids)) := by
  refine .modify fun s => ?_
  have reports : (s.reports ++ [r]).map (Report.tacit ids) =
      s.reports.map (Report.tacit ids) ++ [r.tacit ids] := List.map_append
  exact congrArg (DeviceState.mk s.manager (s.device.tacit ids)) reports.symm

theorem ensureUnregistered_tacit (ids : List DeviceId) :
    Mirrors (tacit (η := η) (ε := ε) ids) ensureUnregistered
      ensureUnregistered := by
  refine getDevice_bind_tacit fun d => ?_
  rw [Device.isRegistered_tacit]
  split
  · exact .fail _ _
  · exact .pure _ _

theorem register_tacit (ids : List DeviceId) (backend : Backend η ε) :
    Mirrors (tacit ids) (register backend) (register backend) := by
  refine (ensureUnregistered_tacit ids).bind fun _ => ?_
  refine getDevice_bind_tacit fun d => ?_
  simp only [Device.attach_tacit, Device.selected_tacit, Device.netnsKey_tacit]
  refine (onManager_tacit ids _).bind fun attached => ?_
  exact changeDevice_tacit fun _ => rfl

theorem unregister_tacit (ids : List DeviceId) :
    Mirrors (tacit (η := η) (ε := ε) ids) unregister unregister := by
  refine getDevice_bind_tacit fun d => ?_
  rw [Device.context_tacit]
  split
  · exact .fail _ _
  · refine Mirrors.bind ?_ fun _ => onManager_tacit ids _
    exact changeDevice_tacit fun _ => rfl

theorem free_tacit (ids : List DeviceId) :
    Mirrors (tacit (η := η) (ε := ε) ids) free free := by
  refine getDevice_bind_tacit fun d => ?_
  rw [Device.isRegistered_tacit]
  split
  · exact (unregister_tacit ids).bind fun _ => onManager_tacit ids _
  · exact onManager_tacit ids _

/-! ## Notifications -/

theorem follow_tacit (ids : List DeviceId) (backend : Backend η ε)
    (instruction : Instruction ε) :
    Mirrors (tacit ids) (follow backend instruction)
      (follow backend instruction) := by
  have reports : ∀ act : Action (Manager η) Unit,
      Mirrors (tacit (ε := ε) ids)
        (do report (.followed (← Action.tried (onManager act))))
        (do report (.followed (← Action.tried (onManager act)))) :=
    fun act => (onManager_tacit ids act).tried.bind fun result =>
      report_tacit ids (.followed result)
  cases instruction with
  | bringUpDown up =>
    exact getDevice_bind_tacit fun d => reports (d.bringUpDown backend up)
  | addAddress address length =>
    exact getDevice_bind_tacit fun d =>
      reports (d.addAddress backend address length)
  | addRoute destination length gateway =>
    exact getDevice_bind_tacit fun d =>
      reports (d.addRoute backend destination length gateway)
  | allocateBriefly name =>
    refine (onManager_tacit ids (Manager.allocate name)).bind fun brief => ?_
    refine .get_bind fun s => ?_
    refine (report_tacit ids (.saw s.manager.registry.names)).bind
      fun _ => ?_
    exact onManager_tacit ids (Manager.free brief)
  | panic message => exact .panic _ _
  | adjust change =>
    refine (onManager_tacit ids _).bind fun _ => ?_
    exact report_tacit ids (.followed (.ok ()))

theorem call_tacit (ids : List DeviceId) (backend : Backend η ε)
    (observation : Observation) :
    Mirrors (tacit ids) (call backend observation)
      (call backend observation) := by
  refine getDevice_bind_tacit fun d => ?_
  rw [Device.callback_tacit]
  split
  · exact .pure _ _
  · refine (changeDevice_tacit fun d => ?_).bind fun _ => ?_
    · exact d.setCallback_tacit ids none observation.kind
    refine getDevice_bind_tacit fun away => ?_
    refine (report_tacit ids (.called observation away)).bind fun _ => ?_
    refine (Mirrors.forM (follow_tacit ids backend) _).bind fun _ => ?_
    exact changeDevice_tacit fun d =>
      d.setCallback_tacit ids (some _) observation.kind

theorem notify_tacit (ids : List DeviceId) (backend : Backend η ε)
    (observation : Observation) :
    Mirrors (tacit ids) (notify backend observation)
      (notify backend observation) := by
  have notes : ∀ n, Mirrors (tacit (η := η) (ε := ε) ids) (note n) (note n) :=
    fun n => onManager_tacit ids (Manager.note n)
  have calls := call_tacit ids backend observation
  have stores : Mirrors (tacit (η := η) ids)
      (changeDevice fun d : Device ε => d.store observation)
      (changeDevice fun d => d.store observation) :=
    changeDevice_tacit fun d => d.store_tacit ids observation
  refine getDevice_bind_tacit fun d => ?_
  rw [Device.isRegistered_tacit, Device.observed_tacit, Device.changeOf_tacit]
  split
  · exact notes _
  · split
    · exact .pure _ _
    · dsimp only
      split
      · exact (notes _).bind fun _ => calls.bind fun _ => stores
      · exact stores.bind fun _ => (notes _).bind fun _ => calls

theorem refresh_tacit (ids : List DeviceId) (backend : Backend η ε) :
    Mirrors (tacit ids) (refresh backend) (refresh backend) := by
  refine getDevice_bind_tacit fun d => ?_
  refine (onManager_tacit ids (d.query backend)).bind fun found => ?_
  refine (notify_tacit ids backend _).bind fun _ => ?_
  exact (notify_tacit ids backend _).bind fun _ => notify_tacit ids backend _

/-- Telling a device its namespace looks like telling it without the empty
name. -/
theorem setNetns_tacit (ids : List DeviceId) (netns : Option String)
    (s : DeviceState η ε) :
    outcome (setNetns (spelling (ids.contains s.device.id) netns))
        (s.tacit ids) =
      ((outcome (setNetns netns) s).1,
        (outcome (setNetns netns) s).2.tacit ids) := by
  have registered : (s.tacit ids).device.isRegistered =
      s.device.isRegistered := rfl
  rw [setNetns, setNetns, outcome_configure, outcome_configure, registered]
  split <;> rfl

end DeviceState

/-- The operation without the empty name, if it is to be `silent`. -/
def DeviceOperation.tacit (silent : Bool) :
    DeviceOperation ε → DeviceOperation ε
  | setNetns netns => setNetns (spelling silent netns)
  | operation => operation

namespace DeviceState

/-- Every operation looks like the same one without the empty name. -/
theorem perform_tacit (ids : List DeviceId) (backend : Backend η ε)
    (operation : DeviceOperation ε) (s : DeviceState η ε) :
    outcome (perform backend (operation.tacit (ids.contains s.device.id)))
        (s.tacit ids) =
      ((outcome (perform backend operation) s).1,
        (outcome (perform backend operation) s).2.tacit ids) := by
  have changes : ∀ change : Device ε → Device ε,
      (∀ d, change (d.tacit ids) = (change d).tacit ids) →
      Mirrors (tacit (η := η) ids) (changeDevice change)
        (changeDevice change) := fun change => changeDevice_tacit
  cases operation with
  | setIfindex ifindex =>
    exact (ensureUnregistered_tacit ids).bind
      (fun _ => changes (fun d => { d with ifindex }) fun _ => rfl) s
  | setNetns netns => exact setNetns_tacit ids netns s
  | setOwnerData data =>
    exact changes (fun d => { d with ownerData := some data })
      (fun _ => rfl) s
  | takeOwnerData =>
    exact changes (fun d => { d with ownerData := none }) (fun _ => rfl) s
  | setCallback kind callback =>
    exact changes (fun d => d.setCallback callback kind)
      (fun d => d.setCallback_tacit ids callback kind) s
  | register => exact register_tacit ids backend s
  | unregister => exact unregister_tacit ids s
  | bringUpDown up =>
    exact getDevice_bind_tacit
      (fun d => onManager_tacit ids (d.bringUpDown backend up)) s
  | addAddress address length =>
    exact getDevice_bind_tacit
      (fun d => onManager_tacit ids (d.addAddress backend address length)) s
  | addRoute destination length gateway =>
    exact getDevice_bind_tacit (fun d => onManager_tacit ids
      (d.addRoute backend destination length gateway)) s
  | refresh => exact refresh_tacit ids backend s
  | notify observation => exact notify_tacit ids backend observation s

end DeviceState

/-- Freeing a device does not depend on how it spells its namespace. -/
theorem Manager.outcome_free_tacit (ids : List DeviceId) (d : Device ε)
    (m : Manager η) :
    outcome (free (d.tacit ids)) m = outcome (free d) m := by
  have looks := DeviceState.free_tacit ids ⟨m, d, []⟩
  rw [DeviceState.tacit, List.map_nil] at looks
  rw [free, free, outcome_focus, outcome_focus, looks]
  rfl

/-! ## Steps of a fleet -/

/-- Two steps that are the same, or tell a device the default namespace in
two ways. -/
inductive FleetStep.SameButSpelling : FleetStep ε → FleetStep ε → Prop
  | same (s : FleetStep ε) : SameButSpelling s s
  | named (label : String) : SameButSpelling
      (operate label (.setNetns none)) (operate label (.setNetns (some "")))
  | unnamed (label : String) : SameButSpelling
      (operate label (.setNetns (some ""))) (operate label (.setNetns none))

namespace Fleet

variable {ids : List DeviceId} {backend : Backend η ε} {f g : Fleet η ε}
  {s t : FleetStep ε}

/-- The fleet as it looks. -/
def tacit (ids : List DeviceId) (f : Fleet η ε) : Fleet η ε where
  manager := f.manager
  devices := f.devices.map fun entry => (entry.1, entry.2.tacit ids)
  reports := f.reports.map (Report.tacit ids)

/-- The device under a label, if there is one, is among `ids`. -/
def silent (ids : List DeviceId) (f : Fleet η ε) (label : String) : Bool :=
  (f.devices.at? label).all fun d => ids.contains d.id

/-- The step without the empty name. -/
def tacitStep (ids : List DeviceId) (f : Fleet η ε) :
    FleetStep ε → FleetStep ε
  | .operate label operation =>
    .operate label (operation.tacit (f.silent ids label))
  | s => s

theorem at?_tacit (ids : List DeviceId) (f : Fleet η ε) (label : String) :
    (f.tacit ids).devices.at? label =
      (f.devices.at? label).map (Device.tacit ids) :=
  Labelled.at?_map (Device.tacit ids) f.devices label

theorem put_tacit (ids : List DeviceId) (f : Fleet η ε) (label : String)
    (d : Device ε) :
    (f.tacit ids).devices.put label (d.tacit ids) =
      (f.devices.put label d).map fun entry => (entry.1, entry.2.tacit ids) :=
  Labelled.put_map (Device.tacit ids) f.devices label d

theorem working_tacit (ids : List DeviceId) (f : Fleet η ε)
    (d : Device ε) :
    (f.tacit ids).working (d.tacit ids) = (f.working d).tacit ids := rfl

theorem worked_tacit (ids : List DeviceId) (f : Fleet η ε) (label : String)
    (s : DeviceState η ε) :
    (f.tacit ids).worked label (s.tacit ids) =
      (f.worked label s).tacit ids :=
  congrArg (Fleet.mk s.manager · (s.reports.map (Report.tacit ids)))
    (put_tacit ids f label s.device)

theorem onManager_tacit (ids : List DeviceId)
    (act : Action (Manager η) α) :
    Mirrors (tacit (ε := ε) ids) (onManager act) (onManager act) := by
  intro f
  rw [outcome_onManager, outcome_onManager]
  rfl

theorem free_tacit (ids : List DeviceId) (d : Device ε) :
    Mirrors (tacit (η := η) (ε := ε) ids) (onManager (Manager.free d))
      (onManager (Manager.free (d.tacit ids))) := by
  intro f
  rw [outcome_onManager, outcome_onManager, Manager.outcome_free_tacit]
  rfl

theorem tacitStep_tacit (ids : List DeviceId) (f : Fleet η ε)
    (s : FleetStep ε) : (f.tacit ids).tacitStep ids s = f.tacitStep ids s := by
  cases s with
  | operate label operation =>
    have known : (f.tacit ids).silent ids label = f.silent ids label := by
      rw [silent, silent, at?_tacit, Option.all_map]
      rfl
    rw [tacitStep, tacitStep, known]
  | _ => rfl

theorem step_allocate_tacit (ids : List DeviceId) (label name : String) :
    Mirrors (tacit (η := η) ids) (step backend (.allocate label name))
      (step backend (.allocate label name)) := by
  intro f
  -- A new device has not been told a namespace, so it looks as it is.
  have fresh : (f.nextDevice name).tacit ids = f.nextDevice name :=
    congrArg (fun netns => { f.nextDevice name with netns })
      (by cases ids.contains (f.nextDevice name).id <;> rfl)
  have entered := put_tacit ids f label (f.nextDevice name)
  rw [fresh] at entered
  have entering : Fleet.mk (f.manager.allocated name)
      ((f.tacit ids).devices.put label (f.nextDevice name))
      (f.tacit ids).reports =
        tacit ids { f with
          manager := f.manager.allocated name
          devices := f.devices.put label (f.nextDevice name) } :=
    congrArg (Fleet.mk _ · _) entered
  rw [outcome_step_allocate_freeing, outcome_step_allocate_freeing, at?_tacit]
  refine (congrArg (outcome _) entering).trans ?_
  rcases f.devices.at? label with _ | old
  · rfl
  · exact free_tacit ids old _

theorem step_free_tacit (ids : List DeviceId) (label : String) :
    Mirrors (tacit (η := η) ids) (step backend (.free label))
      (step backend (.free label)) := by
  refine .get_bind fun f => ?_
  rw [at?_tacit]
  rcases f.devices.at? label with _ | d
  · exact .pure _ _
  · refine Mirrors.bind (.modify fun f => ?_) fun _ => free_tacit ids d
    exact congrArg (Fleet.mk f.manager · (f.reports.map (Report.tacit ids)))
      (Labelled.without_map (Device.tacit ids) f.devices label)

/-- Every step looks like the same one without the empty name. -/
theorem step_tacit (ids : List DeviceId) (backend : Backend η ε)
    (f : Fleet η ε) (s : FleetStep ε) :
    outcome (step backend (f.tacitStep ids s)) (f.tacit ids) =
      ((outcome (step backend s) f).1,
        (outcome (step backend s) f).2.tacit ids) := by
  cases s with
  | allocate label name => exact step_allocate_tacit ids label name f
  | free label => exact step_free_tacit ids label f
  | operate label operation =>
    have found' := at?_tacit ids f label
    rcases found : f.devices.at? label with _ | device
    · rw [found] at found'
      rw [tacitStep, outcome_step_missing found, outcome_step_missing found']
    · rw [found] at found'
      have silent : f.silent ids label = ids.contains device.id := by
        rw [Fleet.silent, found, Option.all_some]
      have performs := DeviceState.perform_tacit ids backend operation
        (f.working device)
      rw [tacitStep, silent, outcome_step_operate found,
        outcome_step_operate found', working_tacit]
      dsimp only [working] at performs ⊢
      rw [performs, worked_tacit]
  | adjust change => exact onManager_tacit ids _ f

/-! ## Two runs -/

/-- The device that is told the default namespace in two ways. -/
def respells (f : Fleet η ε) : FleetStep ε → FleetStep ε → List DeviceId
  | .operate label (.setNetns netns), .operate _ (.setNetns other) =>
    if netns = other then []
    else ((f.devices.at? label).map Device.id).toList
  | _, _ => []

/-- The devices that are told the default namespace in two ways. -/
def respelled (backend : Backend η ε) (f : Fleet η ε) :
    List (FleetStep ε) → List (FleetStep ε) → List DeviceId
  | s :: steps, t :: others =>
    f.respells s t ++
      respelled backend (outcome (step backend s) f).2 steps others
  | _, _ => []

/-- What the steps of a run return. -/
def results (backend : Backend η ε) (f : Fleet η ε) :
    List (FleetStep ε) → List (Outcome Unit)
  | [] => []
  | s :: steps =>
    (outcome (step backend s) f).1 ::
      results backend (outcome (step backend s) f).2 steps

/-- Two fleets that are the same but for the spelling of the default namespace
by the devices `ids`. -/
structure SameButSpelling (ids : List DeviceId) (f g : Fleet η ε) :
    Prop where
  manager : f.manager = g.manager
  devices : ∀ label, Option.Rel (Device.SameButSpelling ids)
    (f.devices.at? label) (g.devices.at? label)
  reports : List.Forall₂ (Report.SameButSpelling ids) f.reports g.reports

theorem sameButSpelling_of_tacit (same : f.tacit ids = g.tacit ids) :
    f.SameButSpelling ids g where
  manager := by
    have managers := congrArg Fleet.manager same
    exact managers
  devices := by
    intro label
    have found : (f.devices.at? label).map (Device.tacit ids) =
        (g.devices.at? label).map (Device.tacit ids) := by
      rw [← at?_tacit, ← at?_tacit, same]
    cases left : f.devices.at? label with
    | none =>
      rw [left, Option.map_none, eq_comm, Option.map_eq_none_iff] at found
      rw [found]
      exact .none
    | some d =>
      rw [left, Option.map_some, eq_comm, Option.map_eq_some_iff] at found
      obtain ⟨e, right, looks⟩ := found
      rw [right]
      exact .some (Device.sameButSpelling_of_tacit looks.symm)
  reports := by
    have told : f.reports.map (Report.tacit ids) =
        g.reports.map (Report.tacit ids) := congrArg Fleet.reports same
    rw [← List.forall₂_eq_eq_eq, List.forall₂_map_left_iff,
      List.forall₂_map_right_iff] at told
    exact told.imp fun _ _ => Report.sameButSpelling_of_tacit

/-- Steps that are the same but for the spelling look the same. -/
theorem tacitStep_eq (alike : s.SameButSpelling t)
    (known : f.respells s t ⊆ ids) :
    f.tacitStep ids s = f.tacitStep ids t := by
  have silent : ∀ label,
      ((f.devices.at? label).map Device.id).toList ⊆ ids →
        f.silent ids label = true := by
    intro label known
    rw [Fleet.silent]
    cases found : f.devices.at? label with
    | none => rfl
    | some d => simpa [found] using known
  cases alike with
  | same => rfl
  | named label =>
    rw [tacitStep, tacitStep, silent label known]
    rfl
  | unnamed label =>
    rw [tacitStep, tacitStep, silent label known]
    rfl

theorem step_looks (same : f.tacit ids = g.tacit ids)
    (alike : s.SameButSpelling t) (known : f.respells s t ⊆ ids) :
    (outcome (step backend s) f).1 = (outcome (step backend t) g).1 ∧
      (outcome (step backend s) f).2.tacit ids =
        (outcome (step backend t) g).2.tacit ids := by
  -- Without the empty name both steps are one step of one fleet.
  have plain : f.tacitStep ids s = g.tacitStep ids t := by
    rw [tacitStep_eq alike known, ← tacitStep_tacit, same, tacitStep_tacit]
  have first := step_tacit ids backend f s
  rw [plain, same, step_tacit ids backend g t] at first
  exact ⟨(congrArg Prod.fst first).symm, (congrArg Prod.snd first).symm⟩

theorem run_looks {steps others : List (FleetStep ε)}
    (alike : List.Forall₂ FleetStep.SameButSpelling steps others)
    (same : f.tacit ids = g.tacit ids)
    (known : respelled backend f steps others ⊆ ids) :
    results backend f steps = results backend g others ∧
      (run backend f steps).tacit ids = (run backend g others).tacit ids := by
  induction alike generalizing f g with
  | nil => exact ⟨rfl, same⟩
  | cons here _ ih =>
    rw [respelled, List.append_subset] at known
    obtain ⟨returned, looks⟩ := step_looks same here known.1
    obtain ⟨later, final⟩ := ih looks known.2
    rw [results, results, returned, later]
    exact ⟨rfl, final⟩

/-- Runs in which devices are told the default namespace by no name in the one
and by the empty name in the other return the same, whatever the backend
answers and the callbacks do.  After every step the managers are the same, with
the pool, the registry and its bindings, the host and the journal; callbacks
have been called alike and have met with the same; and devices differ in
nothing but the name by which those that were told it differently select the
default namespace. -/
theorem run_takes_empty_for_default (backend : Backend η ε) (f : Fleet η ε)
    {steps others : List (FleetStep ε)}
    (alike : List.Forall₂ FleetStep.SameButSpelling steps others) :
    results backend f steps = results backend f others ∧
      ∀ n,
        let past := steps.take n
        let past' := others.take n
        (run backend f past).SameButSpelling (respelled backend f past past')
          (run backend f past') := by
  refine ⟨(run_looks alike rfl (List.Subset.refl _)).1, ?_⟩
  intro n past past'
  -- The first `n` steps of both runs are again such runs.
  obtain ⟨-, looks⟩ := run_looks
    (List.forall₂_take n alike) (Eq.refl (f.tacit _)) (List.Subset.refl _)
  exact sameButSpelling_of_tacit looks

/-- A device without a namespace is told so by `netns`.  It registers where
the thread has been left behind and learns the state of its interface. -/
def selectStranded (netns : Option String) :
    List (FleetStep MemoryHost.Adjustment) :=
  strandThread ++
    .operate "c" (.setNetns netns) ::
      [.operate "c" (.setCallback .upDown (some [.bringUpDown true])),
        .operate "c" .register, .operate "c" .refresh]

theorem selectStranded_takes_empty_for_default :
    let steps := selectStranded none
    let others := selectStranded (some "")
    let f := run MemoryHost.backend (start tunnelHost) steps
    let g := run MemoryHost.backend (start tunnelHost) others
    List.Forall₂ FleetStep.SameButSpelling steps others ∧
    results MemoryHost.backend (start tunnelHost) steps =
      results MemoryHost.backend (start tunnelHost) others ∧
    f.SameButSpelling [⟨2⟩] g ∧
    (f.devices.at? "c").map (fun d => (d.netns, d.isRegistered)) =
      some (none, true) ∧
    (g.devices.at? "c").map (fun d => (d.netns, d.isRegistered)) =
      some (some "", true) := by
  intro steps others f g
  have unchanged : ∀ more : List (FleetStep MemoryHost.Adjustment),
      List.Forall₂ FleetStep.SameButSpelling more more := fun more =>
    List.forall₂_same.mpr fun s _ => .same s
  have alike : List.Forall₂ FleetStep.SameButSpelling steps others :=
    List.rel_append (unchanged strandThread)
      (.cons (.named "c") (unchanged _))
  obtain ⟨returned, same⟩ :=
    run_takes_empty_for_default MemoryHost.backend (start tunnelHost) alike
  have respelt : respelled MemoryHost.backend (start tunnelHost) steps others =
      [⟨2⟩] := by decide +kernel
  have whole := same steps.length
  dsimp only at whole
  rw [List.take_length, alike.length_eq, List.take_length, respelt] at whole
  exact ⟨alike, returned, whole, by decide +kernel, by decide +kernel⟩

end Fleet

end InterfaceManager

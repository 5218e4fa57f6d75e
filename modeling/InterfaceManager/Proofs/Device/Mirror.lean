import InterfaceManager.Proofs.Device.Fleet
import InterfaceManager.Proofs.Mirror

/-!
# Fleets seen through a view

If the calls of a backend look through a view like the calls of another one,
then a fleet that works with the first looks like a fleet that works with the
second, step by step and so in every run.  In particular a run on record is
the plain run once the record is forgotten.
-/

namespace InterfaceManager

open InterfaceManager.Action

/-- The calls on interfaces look like those of another control. -/
structure LinkControl.Mirrors (view : η → θ)
    (links : LinkControl η) (image : LinkControl θ) : Prop where
  resolveName : ∀ ifindex, Action.Mirrors (Session.onto view)
    (links.resolveName ifindex) (image.resolveName ifindex)
  linkState : ∀ devName, Action.Mirrors (Session.onto view)
    (links.linkState devName) (image.linkState devName)
  setUp : ∀ devName up, Action.Mirrors (Session.onto view)
    (links.setUp devName up) (image.setUp devName up)
  addAddress : ∀ devName address length, Action.Mirrors (Session.onto view)
    (links.addAddress devName address length)
    (image.addAddress devName address length)
  addRoute : ∀ devName destination length gateway,
    Action.Mirrors (Session.onto view)
      (links.addRoute devName destination length gateway)
      (image.addRoute devName destination length gateway)

/-- A backend looks like another one. -/
structure Backend.Mirrors (view : η → θ)
    (backend : Backend η ε) (image : Backend θ ε) : Prop where
  provider : backend.provider.Mirrors view image.provider
  links : backend.links.Mirrors view image.links
  adjust : ∀ host change,
    image.adjust (view host) change = view (backend.adjust host change)

variable {view : η → θ} {backend : Backend η ε} {image : Backend θ ε}

/-! ## Managers -/

namespace Manager

def onto (view : η → θ) (m : Manager η) : Manager θ :=
  ⟨m.toPooled.onto view, m.registry⟩

theorem onPool_mirrors {act : Action (Pooled η) α}
    {act' : Action (Pooled θ) α}
    (hact : Mirrors (Pooled.onto view) act act') :
    Mirrors (onto view) (onPool act) (onPool act') :=
  hact.focus (fun _ => rfl) fun _ _ => rfl

theorem inSession_mirrors {act : Action (Session η) α}
    {act' : Action (Session θ) α}
    (hact : Mirrors (Session.onto view) act act') :
    Mirrors (onto view) (inSession act) (inSession act') :=
  onPool_mirrors (Pooled.inSession_mirrors hact)

theorem note_mirrors (view : η → θ) (n : Notice) :
    Mirrors (onto view) (note n) (note n) :=
  inSession_mirrors (Session.note_mirrors view n)

theorem onRegistry_mirrors (view : η → θ)
    (change : Registry → α × Registry) :
    Mirrors (onto view) (onRegistry change) (onRegistry change) :=
  .modifyGet fun _ => rfl

theorem inSpan_mirrors (span : Span) {act : Action (Manager η) α}
    {act' : Action (Manager θ) α} (hact : Mirrors (onto view) act act') :
    Mirrors (onto view) (inSpan span act) (inSpan span act') :=
  Mirrors.bind (.modify fun _ => rfl) fun _ => hact.andFinally fun _ => rfl

theorem within_mirrors (mirrors : backend.Mirrors view image)
    (context : Context) (operation : String) {act : Action (Session η) α}
    {act' : Action (Session θ) α}
    (hact : Mirrors (Session.onto view) act act') :
    Mirrors (onto view) (within backend context operation act)
      (within image context operation act') := by
  refine .get_bind fun m => ?_
  exact inSession_mirrors
    (runInNamespace_mirrors mirrors.provider context _ operation hact)

theorem allocate_mirrors (view : η → θ) (name : String) :
    Mirrors (onto view) (allocate name : Action (Manager η) (Device ε))
      (allocate name) := by
  refine (onRegistry_mirrors view _).bind fun id => ?_
  exact (note_mirrors view _).bind fun _ => .pure _ _

theorem release_mirrors (view : η → θ) (context : Context) :
    Mirrors (onto view) (release context) (release context) :=
  onPool_mirrors (Pooled.release_mirrors view context)

theorem attach_mirrors (mirrors : backend.Mirrors view image)
    (device : Device ε) :
    Mirrors (onto view) (attach backend device) (attach image device) := by
  have acquires : Mirrors (onto view) (acquire backend device.netnsKey)
      (acquire image device.netnsKey) :=
    (onPool_mirrors (Pooled.acquire_mirrors mirrors.provider _)).mapError _
  refine acquires.bind fun context => ?_
  have resolves := within_mirrors mirrors context "register"
    (mirrors.links.resolveName device.ifindex)
  refine resolves.tried.bind fun resolved => ?_
  cases resolved with
  | ok devName => exact .pure _ _
  | error e =>
    refine (note_mirrors view _).bind fun _ => ?_
    exact (release_mirrors view context).bind fun _ => .fail _ _

end Manager

/-! ## Devices -/

namespace Device

theorem onInterface_mirrors (mirrors : backend.Mirrors view image)
    (device : Device ε) (operation : String)
    {act : String → Action (Session η) α}
    {act' : String → Action (Session θ) α}
    (hact : ∀ devName,
      Mirrors (Session.onto view) (act devName) (act' devName)) :
    Mirrors (Manager.onto view) (device.onInterface backend operation act)
      (device.onInterface image operation act') := by
  unfold onInterface
  split
  · exact Manager.inSpan_mirrors _
      (Manager.within_mirrors mirrors _ operation (hact _))
  · exact .fail _ _

variable (mirrors : backend.Mirrors view image) (device : Device ε)

include mirrors

theorem bringUpDown_mirrors (up : Bool) :
    Mirrors (Manager.onto view) (device.bringUpDown backend up)
      (device.bringUpDown image up) :=
  onInterface_mirrors mirrors device "bring_up_down" fun devName =>
    (Session.note_mirrors view _).bind fun _ =>
      mirrors.links.setUp devName up

theorem addAddress_mirrors (address : Address) (length : UInt8) :
    Mirrors (Manager.onto view) (device.addAddress backend address length)
      (device.addAddress image address length) :=
  onInterface_mirrors mirrors device "add_address" fun devName =>
    (Session.note_mirrors view _).bind fun _ =>
      mirrors.links.addAddress devName address length

theorem addRoute_mirrors (destination : Address) (length : UInt8)
    (gateway : Option Address) :
    Mirrors (Manager.onto view)
      (device.addRoute backend destination length gateway)
      (device.addRoute image destination length gateway) :=
  onInterface_mirrors mirrors device "add_route" fun devName =>
    (Session.note_mirrors view _).bind fun _ =>
      mirrors.links.addRoute devName destination length gateway

theorem query_mirrors :
    Mirrors (Manager.onto view) (device.query backend)
      (device.query image) :=
  onInterface_mirrors mirrors device "refresh_link_state" fun _ =>
    (mirrors.links.resolveName device.ifindex).bind fun devName =>
      (mirrors.links.linkState devName).bind fun _ => .pure _ _

end Device

namespace DeviceState

/-- The device at work on the host that is viewed. -/
def onto (view : η → θ) (s : DeviceState η ε) : DeviceState θ ε :=
  ⟨s.manager.onto view, s.device, s.reports⟩

theorem onManager_mirrors {act : Action (Manager η) α}
    {act' : Action (Manager θ) α}
    (hact : Mirrors (Manager.onto view) act act') :
    Mirrors (onto (ε := ε) view) (onManager act) (onManager act') :=
  hact.focus (fun _ => rfl) fun _ _ => rfl

/-- The device is read alike on both sides. -/
theorem getDevice_bind_mirrors {next : Device ε → Action (DeviceState η ε) α}
    {next' : Device ε → Action (DeviceState θ ε) α}
    (hnext : ∀ device, Mirrors (onto view) (next device) (next' device)) :
    Mirrors (onto view) (getDevice >>= next) (getDevice >>= next') :=
  fun s => hnext s.device s

theorem changeDevice_mirrors (view : η → θ)
    (change : Device ε → Device ε) :
    Mirrors (onto view) (changeDevice change) (changeDevice change) :=
  fun _ => rfl

theorem report_mirrors (view : η → θ) (r : Report ε) :
    Mirrors (onto view) (report r) (report r) :=
  fun _ => rfl

theorem ensureUnregistered_mirrors (view : η → θ) :
    Mirrors (onto (ε := ε) view) ensureUnregistered ensureUnregistered := by
  refine getDevice_bind_mirrors fun device => ?_
  split
  · exact .fail _ _
  · exact .pure _ _

theorem register_mirrors (mirrors : backend.Mirrors view image) :
    Mirrors (onto view) (register backend) (register image) := by
  refine (ensureUnregistered_mirrors view).bind fun _ => ?_
  refine getDevice_bind_mirrors fun device => ?_
  refine Mirrors.bind ?_ fun _ => changeDevice_mirrors view _
  refine onManager_mirrors (Manager.inSpan_mirrors _ ?_)
  refine (Manager.attach_mirrors mirrors device).bind fun attached => ?_
  refine (Manager.onRegistry_mirrors view _).bind fun others => ?_
  have registers := (Manager.note_mirrors view (.lifecycle device.name
    (.registered attached.2 device.ifindex device.netnsKey))).bind
      fun _ => Mirrors.pure _ attached
  dsimp only
  split
  · exact (Manager.note_mirrors view _).bind fun _ => registers
  · exact registers

theorem unregister_mirrors (view : η → θ) :
    Mirrors (onto (ε := ε) view) unregister unregister := by
  refine getDevice_bind_mirrors fun device => ?_
  split
  · exact .fail _ _
  · refine (changeDevice_mirrors view _).bind fun _ => ?_
    refine onManager_mirrors ?_
    refine (Manager.onRegistry_mirrors view _).bind fun _ => ?_
    refine (Manager.release_mirrors view _).bind fun _ => ?_
    exact Manager.note_mirrors view _

theorem free_mirrors (view : η → θ) :
    Mirrors (onto (ε := ε) view) free free := by
  refine getDevice_bind_mirrors fun device => ?_
  have forgets : Mirrors (onto (ε := ε) view)
      (onManager do
        Manager.onRegistry fun registry => ((), registry.remove device.id)
        Manager.note (.deviceFreed device.name))
      (onManager do
        Manager.onRegistry fun registry => ((), registry.remove device.id)
        Manager.note (.deviceFreed device.name)) :=
    onManager_mirrors ((Manager.onRegistry_mirrors view _).bind
      fun _ => Manager.note_mirrors view _)
  split
  · exact (unregister_mirrors view).bind fun _ => forgets
  · exact forgets

end DeviceState

theorem Manager.free_mirrors (view : η → θ) (device : Device ε) :
    Mirrors (onto view) (free device) (free device) :=
  (DeviceState.free_mirrors view).focus (fun _ => rfl) fun _ _ => rfl

namespace DeviceState

variable (mirrors : backend.Mirrors view image)

include mirrors

theorem follow_mirrors (instruction : Instruction ε) :
    Mirrors (onto view) (follow backend instruction)
      (follow image instruction) := by
  have reports : ∀ {act : Action (Manager η) Unit}
      {act' : Action (Manager θ) Unit},
      Mirrors (Manager.onto view) act act' →
      Mirrors (onto (ε := ε) view)
        (do report (.followed (← Action.tried (onManager act))))
        (do report (.followed (← Action.tried (onManager act')))) :=
    fun hact => (onManager_mirrors hact).tried.bind fun _ =>
      report_mirrors view _
  cases instruction with
  | bringUpDown up =>
    exact getDevice_bind_mirrors fun device =>
      reports (device.bringUpDown_mirrors mirrors up)
  | addAddress address length =>
    exact getDevice_bind_mirrors fun device =>
      reports (device.addAddress_mirrors mirrors address length)
  | addRoute destination length gateway =>
    exact getDevice_bind_mirrors fun device =>
      reports (device.addRoute_mirrors mirrors destination length gateway)
  | allocateBriefly name =>
    refine (onManager_mirrors (Manager.allocate_mirrors view name)).bind
      fun brief => ?_
    refine .get_bind fun s => ?_
    refine (report_mirrors view _).bind fun _ => ?_
    exact onManager_mirrors (Manager.free_mirrors view brief)
  | panic message => exact .panic _ _
  | adjust change =>
    refine Mirrors.bind ?_ fun _ => report_mirrors view _
    refine onManager_mirrors (Manager.inSession_mirrors ?_)
    exact .modify fun s => congrArg (Session.mk · s.journal)
      (mirrors.adjust s.host change)

theorem call_mirrors (observation : Observation) :
    Mirrors (onto view) (call backend observation)
      (call image observation) := by
  refine getDevice_bind_mirrors fun device => ?_
  split
  · exact .pure _ _
  · refine (changeDevice_mirrors view _).bind fun _ => ?_
    refine getDevice_bind_mirrors fun away => ?_
    refine (report_mirrors view _).bind fun _ => ?_
    refine (Mirrors.forM (follow_mirrors mirrors) _).bind fun _ => ?_
    exact changeDevice_mirrors view _

theorem notify_mirrors (observation : Observation) :
    Mirrors (onto view) (notify backend observation)
      (notify image observation) := by
  have notes : ∀ n, Mirrors (onto (ε := ε) view) (note n) (note n) :=
    fun n => onManager_mirrors (Manager.note_mirrors view n)
  have calls := call_mirrors mirrors observation
  refine getDevice_bind_mirrors fun device => ?_
  split
  · exact notes _
  · split
    · exact .pure _ _
    · dsimp only
      split
      · refine (notes _).bind fun _ => ?_
        exact calls.bind fun _ => changeDevice_mirrors view _
      · refine (changeDevice_mirrors view _).bind fun _ => ?_
        exact (notes _).bind fun _ => calls

theorem refresh_mirrors :
    Mirrors (onto view) (refresh backend) (refresh image) := by
  refine getDevice_bind_mirrors fun device => ?_
  refine (onManager_mirrors (device.query_mirrors mirrors)).bind
    fun found => ?_
  refine (notify_mirrors mirrors _).bind fun _ => ?_
  refine (notify_mirrors mirrors _).bind fun _ => ?_
  exact notify_mirrors mirrors _

theorem perform_mirrors (operation : DeviceOperation ε) :
    Mirrors (onto view) (perform backend operation)
      (perform image operation) := by
  have configures : ∀ change : Device ε → Device ε,
      Mirrors (onto view)
        (do
          ensureUnregistered
          changeDevice change)
        (do
          ensureUnregistered
          changeDevice change) := fun change =>
    (ensureUnregistered_mirrors view).bind fun _ =>
      changeDevice_mirrors view change
  cases operation with
  | setIfindex ifindex => exact configures _
  | setNetns netns => exact configures _
  | setOwnerData data =>
    exact changeDevice_mirrors view fun device =>
      { device with ownerData := some data }
  | takeOwnerData =>
    exact changeDevice_mirrors view fun device =>
      { device with ownerData := none }
  | setCallback kind callback =>
    exact changeDevice_mirrors view fun device =>
      device.setCallback callback kind
  | register => exact register_mirrors mirrors
  | unregister => exact unregister_mirrors view
  | bringUpDown up =>
    exact getDevice_bind_mirrors fun device =>
      onManager_mirrors (device.bringUpDown_mirrors mirrors up)
  | addAddress address length =>
    exact getDevice_bind_mirrors fun device =>
      onManager_mirrors (device.addAddress_mirrors mirrors address length)
  | addRoute destination length gateway =>
    exact getDevice_bind_mirrors fun device => onManager_mirrors
      (device.addRoute_mirrors mirrors destination length gateway)
  | refresh => exact refresh_mirrors mirrors
  | notify observation => exact notify_mirrors mirrors observation

end DeviceState

/-! ## Fleets -/

namespace Fleet

def onto (view : η → θ) (f : Fleet η ε) : Fleet θ ε :=
  ⟨f.manager.onto view, f.devices, f.reports⟩

theorem onManager_mirrors {act : Action (Manager η) α}
    {act' : Action (Manager θ) α}
    (hact : Mirrors (Manager.onto view) act act') :
    Mirrors (onto (ε := ε) view) (onManager act) (onManager act') :=
  hact.focus (fun _ => rfl) fun _ _ => rfl

theorem step_mirrors (mirrors : backend.Mirrors view image)
    (next : FleetStep ε) :
    Mirrors (onto view) (step backend next) (step image next) := by
  have frees : ∀ device : Device ε, Mirrors (onto (ε := ε) view)
      (onManager (Manager.free device)) (onManager (Manager.free device)) :=
    fun device => onManager_mirrors (Manager.free_mirrors view device)
  cases next with
  | allocate label name =>
    refine (onManager_mirrors (Manager.allocate_mirrors view name)).bind
      fun device => ?_
    refine .get_bind fun f => ?_
    refine Mirrors.bind (.modify fun _ => rfl) fun _ => ?_
    dsimp only [onto]
    split
    · exact frees _
    · exact .pure _ _
  | free label =>
    refine .get_bind fun f => ?_
    dsimp only [onto]
    split
    · exact Mirrors.bind (.modify fun _ => rfl) fun _ => frees _
    · exact .pure _ _
  | operate label operation =>
    refine .get_bind fun f => ?_
    dsimp only [onto]
    split
    · exact (DeviceState.perform_mirrors mirrors operation).focus
        (fun _ => rfl) fun _ _ => rfl
    · exact .pure _ _
  | adjust change =>
    refine onManager_mirrors (Manager.inSession_mirrors ?_)
    exact .modify fun s => congrArg (Session.mk · s.journal)
      (mirrors.adjust s.host change)

/-- A run looks like the run of what is viewed. -/
theorem run_onto (mirrors : backend.Mirrors view image) (f : Fleet η ε)
    (steps : List (FleetStep ε)) :
    (run backend f steps).onto view = run image (f.onto view) steps := by
  induction steps generalizing f with
  | nil => rfl
  | cons next steps ih =>
    have stepped := congrArg Prod.snd (step_mirrors mirrors next f)
    rw [run_cons, run_cons, stepped]
    exact ih _

end Fleet

theorem LinkControl.recorded_mirrors (event : LinkEvent → κ)
    (links : LinkControl η) :
    (links.recorded event).Mirrors Recorded.host links where
  resolveName ifindex := Action.recorded_mirrors
    (fun answer => event (.resolved ifindex answer)) (links.resolveName ifindex)
  linkState devName := Action.recorded_mirrors
    (fun answer => event (.queried devName answer)) (links.linkState devName)
  setUp devName up := Action.recorded_mirrors
    (fun answer => event (.upDown devName up answer)) (links.setUp devName up)
  addAddress devName address length := Action.recorded_mirrors
    (fun answer => event (.addressAdded devName address length answer))
    (links.addAddress devName address length)
  addRoute devName destination length gateway := Action.recorded_mirrors
    (fun answer =>
      event (.routeAdded devName destination length gateway answer))
    (links.addRoute devName destination length gateway)

theorem Backend.recorded_mirrors (backend : Backend η ε) :
    backend.recorded.Mirrors Recorded.host backend where
  provider := backend.provider.recorded_mirrors BackendEvent.provider
  links := backend.links.recorded_mirrors BackendEvent.link
  adjust _ _ := rfl

theorem Backend.Answers.recorded {backend : Backend η ε}
    (answers : backend.Answers) : backend.recorded.Answers where
  openHandle name := (answers.openHandle name).recorded
    fun answer => BackendEvent.provider (.opened name answer)
  enter handle := (answers.enter handle).recorded
    fun answer => BackendEvent.provider (.entered handle answer)
  exit state := (answers.exit state).recorded
    fun answer => BackendEvent.provider (.left state answer)
  resolveName ifindex := (answers.resolveName ifindex).recorded
    fun answer => BackendEvent.link (.resolved ifindex answer)
  linkState devName := (answers.linkState devName).recorded
    fun answer => BackendEvent.link (.queried devName answer)
  setUp devName up := (answers.setUp devName up).recorded
    fun answer => BackendEvent.link (.upDown devName up answer)
  addAddress devName address length :=
    (answers.addAddress devName address length).recorded
      fun answer =>
        BackendEvent.link (.addressAdded devName address length answer)
  addRoute devName destination length gateway :=
    (answers.addRoute devName destination length gateway).recorded
      fun answer =>
        BackendEvent.link
          (.routeAdded devName destination length gateway answer)

end InterfaceManager

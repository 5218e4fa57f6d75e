import InterfaceManager.Proofs.Device.Fleet
import InterfaceManager.Proofs.Namespace.Calls

/-!
# What every step keeps

There are three kinds of things done to a manager.  Keeping the books leaves
the host alone; what is served by the calls of the backend also depends on
these and on acquiring contexts; and from outside anything may happen to the
host.  A property that is kept by all three is lasting: it is kept by whatever
devices and their callbacks do, in whatever way that ends, and so by every
run.
-/

namespace InterfaceManager

open InterfaceManager.Action

namespace Manager

/-- The action of the session keeps a property of the manager. -/
def Spares (I : Manager η → Prop) (act : Action (Session η) α) : Prop :=
  ∀ m : Manager η, act.Keeps fun t => I (m.withSession t)

/-- Notices, changes of the registry and contexts given back keep the
property. -/
structure Bookkept (I : Manager η → Prop) : Prop where
  journal : ∀ {m : Manager η} {t : Session η}, t.host = m.session.host →
    I m → I (m.withSession t)
  registry : ∀ {m : Manager η} (r : Registry), I m → I { m with registry := r }
  releases : ∀ context, (release context).Keeps I

/-- The calls of the backend keep the property as well. -/
structure Served (backend : Backend η ε) (I : Manager η → Prop) : Prop
    extends Bookkept I where
  calls : backend.Every fun act => Spares I act
  acquires : ∀ name, (onPool (Pooled.acquire backend.provider name)).Keeps I

/-- Whatever may be done to a manager keeps the property. -/
structure Lasting (backend : Backend η ε) (I : Manager η → Prop) : Prop
    extends Served backend I where
  adjusts : ∀ {m : Manager η} change, I m →
    I (m.withSession
      { m.session with host := backend.adjust m.session.host change })

variable {backend : Backend η ε} {I : Manager η → Prop}

theorem Spares.pure (I : Manager η → Prop) (a : α) :
    Spares I (Pure.pure a : Action (Session η) α) :=
  fun _ => .pure _ a

theorem Spares.bind {act : Action (Session η) α}
    {next : α → Action (Session η) β} (hact : Spares I act)
    (hnext : ∀ a, Spares I (next a)) : Spares I (act >>= next) :=
  fun m => (hact m).bind fun a => hnext a m

/-- Keeping the books does nothing to the host. -/
theorem Bookkept.of_host (J : η → Prop) :
    Bookkept fun m : Manager η => J m.session.host where
  journal same hm := same ▸ hm
  registry _ hm := hm
  releases context := by
    intro m hm
    rw [release, outcome_onPool]
    exact Pooled.release_keeps_session (I := fun s : Session η => J s.host)
      (fun _ _ hs => hs) context m.toPooled hm

/-- What the calls keep of the host is kept by all that they serve. -/
theorem Served.of_host {J : η → Prop}
    (calls : backend.Every fun act => act.Keeps fun s => J s.host) :
    Served backend fun m => J m.session.host where
  toBookkept := .of_host J
  calls := calls.mono fun _ keeps _ => keeps
  acquires name := by
    intro m hm
    rw [outcome_onPool]
    exact Pooled.acquire_keeps (fun _ _ hs => hs) calls.openHandle name
      m.toPooled hm

/-- What calls and adjustments keep of the host is lasting. -/
theorem Lasting.of_host {J : η → Prop}
    (calls : backend.Every fun act => act.Keeps fun s => J s.host)
    (adjusts : ∀ h change, J h → J (backend.adjust h change)) :
    Lasting backend fun m => J m.session.host where
  toServed := .of_host calls
  adjusts change hm := adjusts _ change hm

theorem inSession_keeps {act : Action (Session η) α} (spares : Spares I act) :
    (inSession act).Keeps I := by
  intro m hm
  rw [outcome_inSession]
  exact spares m m.session hm

namespace Bookkept

variable (kept : Bookkept I)

include kept

theorem note_spares (n : Notice) : Spares I (Session.note n) := by
  intro m t ht
  exact kept.journal (m := m.withSession t) rfl ht

theorem note_keeps (n : Notice) : (note n).Keeps I :=
  inSession_keeps (kept.note_spares n)

theorem inSpan_keeps (span : Span) {act : Action (Manager η) α}
    (hact : act.Keeps I) : (inSpan span act).Keeps I := by
  intro m hm
  have ran := hact _ (kept.journal (t := m.session.enterSpan span) rfl hm)
  rw [outcome_inSpan]
  exact kept.journal rfl ran

theorem onRegistry_keeps (change : Registry → α × Registry) :
    (onRegistry change).Keeps I := by
  intro m hm
  rw [outcome_onRegistry]
  exact kept.registry _ hm

end Bookkept

namespace Served

variable (served : Served backend I)

include served

theorem within_keeps (context : Context) (operation : String)
    {act : Action (Session η) α} (spares : Spares I act) :
    (within backend context operation act).Keeps I := by
  intro m hm
  have runs := runInNamespace_keeps
    (fun n => served.note_spares n m)
    (fun handle => served.calls.enter handle m)
    (fun state => served.calls.exit state m) context
    (m.contexts.handle? context) operation (spares m)
  rw [outcome_within]
  exact runs m.session hm

theorem allocate_keeps (name : String) :
    (allocate name : Action (Manager η) (Device ε)).Keeps I := by
  refine (served.onRegistry_keeps _).bind fun id => ?_
  exact (served.note_keeps _).bind fun _ => .pure I _

theorem attach_keeps (d : Device ε) : (attach backend d).Keeps I := by
  have acquires : (acquire backend d.netnsKey).Keeps I := by
    intro m hm
    have kept := served.acquires d.netnsKey m hm
    rw [acquire, outcome_mapError]
    rcases acquiring : outcome
        (onPool (Pooled.acquire backend.provider d.netnsKey)) m
      with ⟨(e | message) | context, t⟩ <;>
      rw [acquiring] at kept <;> exact kept
  refine acquires.bind fun context => ?_
  have resolves := served.within_keeps context "register"
    (served.calls.resolveName d.ifindex)
  refine resolves.tried.bind fun resolved => ?_
  split
  · exact .pure I _
  · refine (served.note_keeps _).bind fun _ => ?_
    exact (served.releases context).bind fun _ => .fail I _

end Served
end Manager

/-! ## Devices -/

namespace DeviceState

variable {backend : Backend η ε} {I : Manager η → Prop}
  {J : DeviceState η ε → Prop}

/-- What keeps `I` of the manager keeps `J` of a device at work, and `J` pays
no heed to what the device itself is like and what it reports, as long as it
remains the same device. -/
structure Upholds (I : Manager η → Prop) (J : DeviceState η ε → Prop) :
    Prop where
  onManager : ∀ {α : Type} {act : Action (Manager η) α}, act.Keeps I →
    (onManager act : Action (DeviceState η ε) α).Keeps J
  device : ∀ {s : DeviceState η ε} {d : Device ε}, d.id = s.device.id →
    J s → J { s with device := d }
  report : ∀ {s : DeviceState η ε} {r : Report ε},
    (∀ observation d, r = .called observation d → d = s.device) →
    J s → J { s with reports := s.reports ++ [r] }

theorem Upholds.of_manager (I : Manager η → Prop) :
    Upholds I fun s : DeviceState η ε => I s.manager where
  onManager hact := hact.focus fun _ _ => rfl
  device _ hs := hs
  report _ hs := hs

theorem getDevice_bind_keeps {next : Device ε → Action (DeviceState η ε) α}
    (hnext : ∀ s, J s → J (outcome (next s.device) s).2) :
    (getDevice >>= next).Keeps J := by
  intro s hs
  rw [outcome_bind, outcome_getDevice]
  exact hnext s hs

theorem changeDevice_keeps {change : Device ε → Device ε}
    (hchange : ∀ s, J s → J { s with device := change s.device }) :
    (changeDevice change).Keeps J := hchange

theorem ensureUnregistered_keeps (J : DeviceState η ε → Prop) :
    (ensureUnregistered : Action (DeviceState η ε) Unit).Keeps J := by
  apply getDevice_bind_keeps
  intro s hs
  split <;> exact hs

section Books

variable (kept : Manager.Bookkept I) (upholds : Upholds I J)

include kept upholds

theorem unregister_keeps :
    (unregister : Action (DeviceState η ε) Unit).Keeps J := by
  apply getDevice_bind_keeps
  intro s hs
  split
  · exact hs
  · refine Keeps.bind (changeDevice_keeps fun _ => upholds.device (by rfl))
      (fun _ => upholds.onManager ?_) s hs
    refine (kept.onRegistry_keeps _).bind fun _ => ?_
    refine (kept.releases _).bind fun _ => ?_
    exact kept.note_keeps _

theorem free_keeps : (free : Action (DeviceState η ε) Unit).Keeps J := by
  apply getDevice_bind_keeps
  intro s hs
  have forgets : Keeps J (onManager do
      Manager.onRegistry fun registry => ((), registry.remove s.device.id)
      Manager.note (.deviceFreed s.device.name)) :=
    upholds.onManager ((kept.onRegistry_keeps _).bind fun _ =>
      kept.note_keeps _)
  split
  · exact (unregister_keeps kept upholds).bind (fun _ => forgets) s hs
  · exact forgets s hs

end Books

theorem register_keeps (served : Manager.Served backend I)
    (upholds : Upholds I J) : (register backend).Keeps J := by
  refine (ensureUnregistered_keeps J).bind fun _ => ?_
  refine getDevice_bind_keeps fun s hs => ?_
  refine Keeps.bind (upholds.onManager ?_)
    (fun _ => changeDevice_keeps fun _ => upholds.device (by rfl)) s hs
  refine served.inSpan_keeps _ ?_
  refine (served.attach_keeps s.device).bind fun found => ?_
  refine (served.onRegistry_keeps _).bind fun others => ?_
  have finishes : Keeps I (do
      Manager.note (.lifecycle s.device.name (.registered found.2
        s.device.ifindex s.device.netnsKey))
      return (found.1, found.2)) :=
    (served.note_keeps _).bind fun _ => .pure I _
  dsimp only
  split
  · exact (served.note_keeps _).bind fun _ => finishes
  · exact finishes

end DeviceState

theorem Manager.free_keeps {I : Manager η → Prop} (kept : Bookkept I)
    (d : Device ε) : (free d).Keeps I := by
  intro m hm
  rw [free, outcome_focus]
  exact DeviceState.free_keeps kept (.of_manager I) ⟨m, d, []⟩ hm

namespace Device

variable {backend : Backend η ε} {I : Manager η → Prop}
  (served : Manager.Served backend I)

include served

theorem onInterface_keeps (d : Device ε) (operation : String)
    {act : String → Action (Session η) α}
    (spares : ∀ devName, Manager.Spares I (act devName)) :
    (d.onInterface backend operation act).Keeps I := by
  unfold onInterface
  split
  · exact served.inSpan_keeps _
      (served.within_keeps _ operation (spares _))
  · exact .fail I _

theorem bringUpDown_keeps (d : Device ε) (up : Bool) :
    (d.bringUpDown backend up).Keeps I := by
  apply onInterface_keeps served
  intro devName
  exact (served.note_spares _).bind fun _ => served.calls.setUp devName up

theorem addAddress_keeps (d : Device ε) (address : Address)
    (length : UInt8) : (d.addAddress backend address length).Keeps I := by
  apply onInterface_keeps served
  intro devName
  exact (served.note_spares _).bind fun _ =>
    served.calls.addAddress devName address length

theorem addRoute_keeps (d : Device ε) (destination : Address)
    (length : UInt8) (gateway : Option Address) :
    (d.addRoute backend destination length gateway).Keeps I := by
  apply onInterface_keeps served
  intro devName
  exact (served.note_spares _).bind fun _ =>
    served.calls.addRoute devName destination length gateway

theorem query_keeps (d : Device ε) : (d.query backend).Keeps I := by
  apply onInterface_keeps served
  intro _
  refine (served.calls.resolveName d.ifindex).bind fun devName => ?_
  exact (served.calls.linkState devName).bind fun _ => .pure I _

end Device

/-! ## Observations and operations -/

namespace DeviceState

variable {backend : Backend η ε} {I : Manager η → Prop}
  {J : DeviceState η ε → Prop} (lasting : Manager.Lasting backend I)
  (upholds : Upholds I J)

section Upheld

include upholds

/-- Whatever is not about a call may be reported. -/
theorem report_keeps {r : Report ε} (other : r.call? = none) :
    (report r).Keeps J := by
  intro s hs
  refine upholds.report (fun observation d called => ?_) hs
  rw [called] at other
  cases other

theorem followed_keeps {act : Device ε → Action (Manager η) Unit}
    (hact : ∀ d, (act d).Keeps I) :
    Keeps J (do
      let device ← getDevice
      let result ← Action.tried (onManager (act device))
      report (.followed result) : Action (DeviceState η ε) Unit) := by
  refine getDevice_bind_keeps fun s hs => ?_
  refine Keeps.bind (upholds.onManager (hact s.device)).tried (fun _ => ?_)
    s hs
  exact report_keeps upholds rfl

/-- Working on the interface of the device keeps what the work keeps. -/
theorem onInterface_keeps {act : Device ε → Action (Manager η) Unit}
    (hact : ∀ d, (act d).Keeps I) : (onInterface act).Keeps J :=
  getDevice_bind_keeps fun s hs => upholds.onManager (hact s.device) s hs

end Upheld

include lasting upholds

theorem follow_keeps (instruction : Instruction ε) :
    (follow backend instruction).Keeps J := by
  cases instruction with
  | bringUpDown up =>
    exact followed_keeps upholds fun d =>
      d.bringUpDown_keeps lasting.toServed up
  | addAddress address length =>
    exact followed_keeps upholds fun d =>
      d.addAddress_keeps lasting.toServed address length
  | addRoute destination length gateway =>
    exact followed_keeps upholds fun d =>
      d.addRoute_keeps lasting.toServed destination length gateway
  | allocateBriefly name =>
    refine (upholds.onManager (lasting.allocate_keeps name)).bind
      fun brief => ?_
    refine Keeps.get.bind fun s => ?_
    refine (report_keeps upholds rfl).bind fun _ => ?_
    exact upholds.onManager (Manager.free_keeps lasting.toBookkept brief)
  | panic message => exact .panic _ message
  | adjust change =>
    have adjusts : (Manager.inSession (modify fun s =>
        { s with host := backend.adjust s.host change })).Keeps I := by
      intro m hm
      rw [Manager.outcome_inSession]
      exact lasting.adjusts change hm
    exact (upholds.onManager adjusts).bind fun _ => report_keeps upholds rfl

theorem call_keeps (observation : Observation) :
    (call backend observation).Keeps J := by
  refine getDevice_bind_keeps fun s hs => ?_
  split
  · exact hs
  · next callback installed =>
    have sets : ∀ callback, (changeDevice fun d =>
        d.setCallback callback observation.kind :
          Action (DeviceState η ε) Unit).Keeps J := by
      intro callback
      apply changeDevice_keeps
      intro s
      exact upholds.device (s.device.id_setCallback callback _)
    have follows : (callback.forM (follow backend)).Keeps J :=
      .forM fun instruction _ => follow_keeps lasting upholds instruction
    refine (sets none).bind (fun _ => ?_) s hs
    refine getDevice_bind_keeps fun t ht => ?_
    rw [outcome_bind, outcome_report]
    apply follows.bind fun _ => sets _
    apply upholds.report _ ht
    intro _ d called
    cases called
    rfl

theorem notify_keeps (observation : Observation) :
    (notify backend observation).Keeps J := by
  have notes : ∀ n, (note n : Action (DeviceState η ε) Unit).Keeps J :=
    fun n => upholds.onManager (lasting.note_keeps n)
  have stores : (changeDevice fun d => d.store observation :
      Action (DeviceState η ε) Unit).Keeps J :=
    changeDevice_keeps fun s => upholds.device (s.device.id_store observation)
  have calls := call_keeps lasting upholds observation
  refine getDevice_bind_keeps fun s hs => ?_
  split
  · exact notes _ s hs
  · split
    · exact hs
    · dsimp only
      split
      · exact (notes _).bind (fun _ => calls.bind fun _ => stores) s hs
      · exact stores.bind (fun _ => (notes _).bind fun _ => calls) s hs

theorem refresh_keeps : (refresh backend).Keeps J := by
  have notifies := notify_keeps lasting upholds
  refine getDevice_bind_keeps fun s hs => ?_
  refine Keeps.bind (upholds.onManager (s.device.query_keeps lasting.toServed))
    (fun found => ?_) s hs
  refine (notifies _).bind fun _ => ?_
  exact (notifies _).bind fun _ => notifies _

theorem perform_keeps (operation : DeviceOperation ε) :
    (perform backend operation).Keeps J := by
  have configures : ∀ change : Device ε → Device ε,
      (∀ d, (change d).id = d.id) →
      (changeDevice change : Action (DeviceState η ε) Unit).Keeps J :=
    fun _ same => changeDevice_keeps fun s => upholds.device (same s.device)
  have refuses := ensureUnregistered_keeps J
  cases operation with
  | setIfindex ifindex =>
    exact refuses.bind fun _ => configures _ fun _ => rfl
  | setNetns netns => exact refuses.bind fun _ => configures _ fun _ => rfl
  | setOwnerData data =>
    exact configures (fun d => { d with ownerData := some data })
      fun _ => rfl
  | takeOwnerData =>
    exact configures (fun d => { d with ownerData := none }) fun _ => rfl
  | setCallback kind callback =>
    exact configures (fun d => d.setCallback callback kind) fun d =>
      d.id_setCallback callback kind
  | register => exact register_keeps lasting.toServed upholds
  | unregister => exact unregister_keeps lasting.toBookkept upholds
  | bringUpDown up =>
    exact onInterface_keeps upholds fun d =>
      d.bringUpDown_keeps lasting.toServed up
  | addAddress address length =>
    exact onInterface_keeps upholds fun d =>
      d.addAddress_keeps lasting.toServed address length
  | addRoute destination length gateway =>
    exact onInterface_keeps upholds fun d =>
      d.addRoute_keeps lasting.toServed destination length gateway
  | refresh => exact refresh_keeps lasting upholds
  | notify observation => exact notify_keeps lasting upholds observation

end DeviceState

/-! ## Steps and runs -/

namespace Fleet

variable {backend : Backend η ε} {I : Manager η → Prop}
  (lasting : Manager.Lasting backend I)

include lasting

theorem step_keeps_lasting (next : FleetStep ε) :
    (step backend next).Keeps fun f => I f.manager := by
  have onManager_keeps : ∀ {α : Type} {act : Action (Manager η) α},
      act.Keeps I → (onManager act : Action (Fleet η ε) α).Keeps
        fun f => I f.manager :=
    fun hact => hact.focus fun _ _ => rfl
  have frees : ∀ d : Device ε, (Manager.free d).Keeps I :=
    Manager.free_keeps lasting.toBookkept
  cases next with
  | allocate label name =>
    refine (onManager_keeps (lasting.allocate_keeps name)).bind fun d => ?_
    refine Keeps.get.bind fun f => ?_
    refine Keeps.bind (.modify fun _ hf => hf) fun _ => ?_
    split
    · next old _ => exact onManager_keeps (frees old)
    · exact .pure _ ()
  | free label =>
    refine Keeps.get.bind fun f => ?_
    split
    · next d _ =>
      exact Keeps.bind (.modify fun _ hf => hf) fun _ =>
        onManager_keeps (frees d)
    · exact .pure _ ()
  | operate label operation =>
    refine Keeps.get.bind fun f => ?_
    split
    · next d _ =>
      intro g hg
      rw [onDevice, outcome_focus]
      exact DeviceState.perform_keeps lasting (.of_manager I) operation
        ⟨g.manager, d, g.reports⟩ hg
    · exact .pure _ ()
  | adjust change =>
    intro f hf
    rw [outcome_step_adjust]
    exact lasting.adjusts change hf

/-- Every run keeps a lasting property. -/
theorem run_keeps_lasting {f : Fleet η ε} (hf : I f.manager)
    (steps : List (FleetStep ε)) : I (run backend f steps).manager := by
  induction steps generalizing f with
  | nil => exact hf
  | cons next steps ih => exact ih (step_keeps_lasting lasting next f hf)

end Fleet
end InterfaceManager

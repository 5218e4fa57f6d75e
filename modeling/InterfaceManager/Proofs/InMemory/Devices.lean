import InterfaceManager.Proofs.Device.Keeping
import InterfaceManager.Proofs.Device.Mirror
import InterfaceManager.Proofs.InMemory.Traffic
import InterfaceManager.Proofs.Namespace.Handles

/-!
# Devices keep to their namespaces

Whatever a device does on a host in memory, it works for its own namespace:
this is shown for changes of its interface, then for the callbacks that make
them, and at last for every operation.  It takes contexts whose handles lead
where they should, and a probe that nobody moves.
-/

namespace InterfaceManager

open InterfaceManager.Action
open MemoryHost (Traced Worked)

/-- The interfaces go on asking the namespaces where the thread is. -/
def MemoryHost.Adjustment.keepsProbe : MemoryHost.Adjustment → Bool
  | moveProbe _ => false
  | _ => true

theorem MemoryHost.traffic_adjust (h : MemoryHost)
    {change : MemoryHost.Adjustment} (keeps : change.keepsProbe = true) :
    (h.adjust change).traffic = h.traffic := by
  cases change with
  | moveProbe netns => cases keeps
  | addLink key name =>
    have calls : (h.links.add key name).calls = h.links.calls := by
      rw [MemoryLinks.add]
      split <;> rfl
    exact congrArg (Traffic.mk _ _) calls
  | _ => rfl

def Instruction.keepsProbe : Instruction MemoryHost.Adjustment → Bool
  | adjust change => change.keepsProbe
  | _ => true

namespace Device

/-- No callback of the device moves the probe. -/
def KeepsProbe (d : Device MemoryHost.Adjustment) : Prop :=
  ∀ kind callback, d.callback kind = some callback →
    ∀ instruction ∈ callback, instruction.keepsProbe = true

variable {d : Device MemoryHost.Adjustment}

theorem KeepsProbe.fresh (id : DeviceId) (name : String) :
    (fresh id name : Device MemoryHost.Adjustment).KeepsProbe := by
  intro kind callback installed
  cases kind <;> cases installed

theorem KeepsProbe.setCallback (keeps : d.KeepsProbe)
    {callback : Option (Callback MemoryHost.Adjustment)}
    (new : ∀ installed, callback = some installed →
      ∀ instruction ∈ installed, instruction.keepsProbe = true)
    (kind : ObservationKind) : (d.setCallback callback kind).KeepsProbe := by
  have cases : ∀ other, (d.setCallback callback kind).callback other =
        callback ∨
      (d.setCallback callback kind).callback other = d.callback other := by
    intro other
    cases kind <;> cases other <;>
      first
      | exact Or.inl rfl
      | exact Or.inr rfl
  intro other installed found
  rcases cases other with here | elsewhere
  · exact new installed (here.symm.trans found)
  · exact keeps other installed (elsewhere.symm.trans found)

theorem KeepsProbe.store (keeps : d.KeepsProbe) (observation : Observation) :
    (d.store observation).KeepsProbe := by
  intro kind callback installed
  rw [store_callback] at installed
  exact keeps kind callback installed

variable {m : Manager Traced} {netns : String}

/-- An operation on the interface of a device works for the namespace that
its context leads to, and changes nothing but the session. -/
theorem onInterface_worked
    (current : m.session.host.host.probe = .current)
    (leads : ∀ context, d.context = some context →
      m.contexts.LeadsTo context netns)
    (operation : String) {act : String → Action (Session Traced) α}
    (hact : ∀ devName (h : Traced), h.host.probe = .current →
      (act devName).Keeps fun s => Worked "" h s.host) :
    ∃ result t,
      outcome (d.onInterface MemoryHost.backend.recorded operation act) m =
        (result, m.withSession t) ∧
      Worked netns m.session.host t.host := by
  rcases bound : d.context with _ | context
  · exact ⟨_, m.session, outcome_onInterface_unbound _ operation act m bound,
      .refl _ _⟩
  · rcases named : d.devName with _ | devName
    · refine ⟨.error (.error (.notRegistered d.name)), m.session, ?_,
        .refl _ _⟩
      simp only [onInterface, bound, named]
      rfl
    · obtain ⟨span, houtcome⟩ := outcome_onInterface_bound
        MemoryHost.backend.recorded operation act m bound named
      obtain ⟨called, faithful⟩ := leads context bound
      rw [Manager.outcome_within] at houtcome
      have worked := MemoryHost.runInNamespace_worked called faithful
        operation (hact devName) (s := m.session.enterSpan span) current
      exact ⟨_, _, houtcome, worked⟩

end Device

namespace MemoryHost

variable {h : Traced} (current : h.host.probe = .current)

include current

theorem query_keeps_worked (ifindex : IfIndex) :
    Keeps (fun s => Worked "" h s.host) (do
      let devName ← backend.recorded.links.resolveName ifindex
      let state ← backend.recorded.links.linkState devName
      return (devName, state)) := by
  refine (resolveName_keeps_worked current ifindex).bind fun devName => ?_
  exact (linkState_keeps_worked current devName).bind fun _ => .pure _ _

end MemoryHost

namespace DeviceState

variable {s t : DeviceState Traced MemoryHost.Adjustment}

/-! ## Callbacks -/

/-- From `s` to `t` the device has worked for its namespace, while the pool
and the context of the device have stayed. -/
structure Attends (s t : DeviceState Traced MemoryHost.Adjustment) :
    Prop where
  worked : Worked s.device.netnsKey s.manager.session.host
    t.manager.session.host
  contexts : t.manager.contexts = s.manager.contexts
  pool : t.manager.pool = s.manager.pool
  context : t.device.context = s.device.context
  keepsProbe : t.device.KeepsProbe

namespace Attends

theorem refl (keeps : s.device.KeepsProbe) : Attends s s :=
  ⟨.refl _ _, rfl, rfl, rfl, keeps⟩

theorem change (attends : Attends s t)
    {d : Device MemoryHost.Adjustment} (context : d.context = t.device.context)
    (keeps : d.KeepsProbe) : Attends s { t with device := d } where
  worked := attends.worked
  contexts := attends.contexts
  pool := attends.pool
  context := context.trans attends.context
  keepsProbe := keeps

/-- A report changes nothing that matters here. -/
theorem report (attends : Attends s t)
    (reports : List (Report MemoryHost.Adjustment)) :
    Attends s { t with reports } :=
  ⟨attends.worked, attends.contexts, attends.pool, attends.context,
    attends.keepsProbe⟩

theorem withSession (attends : Attends s t) {session : Session Traced}
    (worked : Worked s.device.netnsKey t.manager.session.host session.host) :
    Attends s { t with manager := t.manager.withSession session } where
  worked := attends.worked.trans worked
  contexts := attends.contexts
  pool := attends.pool
  context := attends.context
  keepsProbe := attends.keepsProbe

end Attends

theorem note_keeps_attends (n : Notice) : (note n).Keeps (Attends s) := by
  intro t attends
  rw [outcome_note]
  exact attends.withSession (.refl _ _)

theorem report_keeps_attends (r : Report MemoryHost.Adjustment) :
    (report r).Keeps (Attends s) :=
  fun _ attends => attends.report _

section Attending

variable (current : s.manager.session.host.host.probe = .current)
  (leads : ∀ context, s.device.context = some context →
    s.manager.contexts.LeadsTo context s.device.netnsKey)

include current leads

theorem Attends.onInterface (attends : Attends s t) (operation : String)
    {act : String → Action (Session Traced) α}
    (hact : ∀ devName (h : Traced), h.host.probe = .current →
      (act devName).Keeps fun s => Worked "" h s.host) :
    Attends s (outcome (onManager (t.device.onInterface
      MemoryHost.backend.recorded operation act)) t).2 := by
  have here : t.manager.session.host.host.probe = .current :=
    attends.worked.probe_eq.trans current
  have leads' : ∀ context, t.device.context = some context →
      t.manager.contexts.LeadsTo context s.device.netnsKey := by
    intro context bound
    rw [attends.context] at bound
    rw [attends.contexts]
    exact leads context bound
  obtain ⟨result, session, running, worked⟩ :=
    Device.onInterface_worked here leads' operation hact
  rw [outcome_onManager, running]
  exact attends.withSession worked

/-- A change of the interface is made for the namespace of the device and
reported. -/
theorem followed_keeps_attends (operation : String)
    {act : String → Action (Session Traced) Unit}
    (hact : ∀ devName (h : Traced), h.host.probe = .current →
      (act devName).Keeps fun s => Worked "" h s.host) :
    Keeps (Attends s) (do
      let device ← getDevice
      let result ← Action.tried <| onManager <|
        device.onInterface MemoryHost.backend.recorded operation act
      report (.followed result)) := by
  refine getDevice_bind_keeps fun t attends => ?_
  have ran := attends.onInterface current leads operation hact
  rw [outcome_bind, outcome_tried]
  rcases running : outcome (onManager (t.device.onInterface
      MemoryHost.backend.recorded operation act)) t
    with ⟨(e | message) | ⟨⟩, u⟩ <;> rw [running] at ran
  · exact ran.report _
  · exact ran
  · exact ran.report _

theorem follow_keeps_attends {instruction : Instruction MemoryHost.Adjustment}
    (keeps : instruction.keepsProbe = true) :
    (follow MemoryHost.backend.recorded instruction).Keeps (Attends s) := by
  cases instruction with
  | bringUpDown up =>
    refine followed_keeps_attends current leads "bring_up_down"
      fun devName h hh => ?_
    exact MemoryHost.noted_keeps_worked _
      (MemoryHost.setUp_keeps_worked hh devName up)
  | addAddress address length =>
    refine followed_keeps_attends current leads "add_address"
      fun devName h hh => ?_
    exact MemoryHost.noted_keeps_worked _
      (MemoryHost.addAddress_keeps_worked hh devName address length)
  | addRoute destination length gateway =>
    refine followed_keeps_attends current leads "add_route"
      fun devName h hh => ?_
    exact MemoryHost.noted_keeps_worked _
      (MemoryHost.addRoute_keeps_worked hh devName destination length gateway)
  | allocateBriefly name =>
    intro t attends
    have freed := Manager.outcome_free_unbound
      (m := t.manager.allocated name) (Device.fresh_context
        (ε := MemoryHost.Adjustment) ⟨t.manager.registry.next⟩ name)
    have came_and_went : (outcome (follow MemoryHost.backend.recorded
        (.allocateBriefly name)) t).2 =
        { t with
          manager := (t.manager.allocated name).forgetting
            (Device.fresh (ε := MemoryHost.Adjustment)
              ⟨t.manager.registry.next⟩ name)
          reports := t.reports ++
            [.saw (t.manager.allocated name).registry.names] } := by
      simp [follow, outcome_bind, Manager.outcome_allocate, freed]
    rw [came_and_went]
    exact ⟨attends.worked, attends.contexts, attends.pool, attends.context,
      attends.keepsProbe⟩
  | panic message => exact .panic _ message
  | adjust change =>
    intro t attends
    let host := t.manager.session.host
    let session : Session Traced :=
      ⟨MemoryHost.backend.recorded.adjust host change,
        t.manager.session.journal⟩
    have unmoved : Worked s.device.netnsKey host session.host :=
      .of_adjust (MemoryHost.traffic_adjust host.host keeps)
    exact (attends.withSession unmoved).report _

theorem call_keeps_attends (observation : Observation) :
    (call MemoryHost.backend.recorded observation).Keeps (Attends s) := by
  have sets : ∀ callback, (∀ installed, callback = some installed →
      ∀ instruction ∈ installed, instruction.keepsProbe = true) →
      Keeps (Attends s) (changeDevice fun device =>
        device.setCallback callback observation.kind) :=
    fun _ new _ attends =>
      attends.change (Device.setCallback_context _ _ _)
        (attends.keepsProbe.setCallback new observation.kind)
  refine getDevice_bind_keeps fun t attends => ?_
  split
  · exact attends
  · next callback installed =>
    have tame := attends.keepsProbe _ callback installed
    refine Keeps.bind (sets none fun _ h => by cases h) (fun _ => ?_)
      t attends
    refine getDevice_bind_keeps fun u hu => ?_
    refine Keeps.bind (report_keeps_attends _) (fun _ => ?_) u hu
    have follows : Keeps (Attends s)
        (callback.forM (follow MemoryHost.backend.recorded)) :=
      .forM fun instruction hmem =>
        follow_keeps_attends current leads (tame instruction hmem)
    refine follows.bind fun _ => sets (some callback) ?_
    rintro _ ⟨⟩
    exact tame

theorem notify_keeps_attends (observation : Observation) :
    (notify MemoryHost.backend.recorded observation).Keeps (Attends s) := by
  have calls := call_keeps_attends current leads observation
  have stores : Keeps (Attends s)
      (changeDevice fun device => device.store observation) :=
    fun _ attends => attends.change (Device.store_context _ _)
      (attends.keepsProbe.store observation)
  have reads : Keeps (Attends s) getDevice := fun _ attends => attends
  refine reads.bind fun device => ?_
  split
  · exact note_keeps_attends _
  · split
    · exact .pure _ ()
    · dsimp only
      split
      · refine (note_keeps_attends _).bind fun _ => ?_
        exact calls.bind fun _ => stores
      · refine stores.bind fun _ => ?_
        exact (note_keeps_attends _).bind fun _ => calls

theorem refresh_keeps_attends :
    (refresh MemoryHost.backend.recorded).Keeps (Attends s) := by
  have notifies : ∀ found : String × LinkState, Keeps (Attends s) (do
      notify MemoryHost.backend.recorded (.devName found.1)
      notify MemoryHost.backend.recorded (.upDown found.2.up)
      notify MemoryHost.backend.recorded (.mtu found.2.mtu)) := by
    intro found
    refine (notify_keeps_attends current leads _).bind fun _ => ?_
    refine (notify_keeps_attends current leads _).bind fun _ => ?_
    exact notify_keeps_attends current leads _
  refine getDevice_bind_keeps fun t attends => ?_
  have queried : Attends s (outcome (onManager (t.device.query
      MemoryHost.backend.recorded)) t).2 :=
    attends.onInterface current leads "refresh_link_state" fun _ h hh =>
      MemoryHost.query_keeps_worked hh t.device.ifindex
  rw [outcome_bind]
  rcases querying : outcome (onManager (t.device.query
      MemoryHost.backend.recorded)) t with ⟨f | found, u⟩ <;>
    rw [querying] at queried
  · exact queried
  · exact notifies found u queried

end Attending

end DeviceState

/-! ## Registration -/

section Attach

variable {m : Manager Traced}
  (current : m.session.host.host.probe = .current)
  (sound : m.pool.Sound m.contexts) (faithful : m.pool.Faithful m.contexts)

include current sound faithful

/-- Attaching resolves the name in the namespace of the device, and leaves a
pool behind whose handles lead where they should. -/
theorem Manager.attach_worked (d : Device MemoryHost.Adjustment) :
    let m' := (outcome (attach MemoryHost.backend.recorded d) m).2
    Worked d.netnsKey m.session.host m'.session.host ∧
      m'.pool.Faithful m'.contexts := by
  intro m'
  let provider := MemoryHost.backend.recorded.provider
  have answers : MemoryHost.backend.recorded.Answers :=
    MemoryHost.backend_calm.answers.recorded
  have opened := Pooled.acquire_keeps
    (MemoryHost.note_keeps_worked d.netnsKey m.session.host)
    (MemoryHost.openHandle_keeps_worked current d.netnsKey) d.netnsKey
    m.toPooled (.refl _ _)
  have named := Pooled.acquire_faithful (p := m.toPooled)
    MemoryHost.openHandle_named sound faithful d.netnsKey
  rcases Pooled.acquire_cases provider d.netnsKey m.toPooled
    with ⟨context, p, acquiring, acquired⟩ | ⟨f, t, -, -, opening, acquiring⟩
  · rw [acquiring] at opened named
    have leads : p.contexts.LeadsTo context d.netnsKey :=
      named.leadsTo (acquired.sound sound) acquired.get?_self
    have inside : p.session.host.host.probe = .current :=
      opened.probe_eq.trans current
    obtain ⟨called, faithful'⟩ := leads
    have resolved := MemoryHost.runInNamespace_worked called faithful'
      "register"
      (fun _ hh => MemoryHost.resolveName_keeps_worked hh d.ifindex)
      (s := p.session) inside
    have run := runInNamespace_answers answers.enter answers.exit context
      (p.contexts.handle? context) "register" (answers.resolveName d.ifindex)
    rcases run.cases p.session
      with ⟨devName, t, resolving⟩ | ⟨e, t, resolving⟩
    · rw [resolving] at resolved
      have attaching : m' = _ := congrArg Prod.snd
        (outcome_attach_resolved MemoryHost.backend.recorded acquiring
          resolving)
      rw [attaching]
      exact ⟨opened.trans resolved, named⟩
    · rw [resolving] at resolved
      let failed : Pooled Traced :=
        { p with session := t.noting (.registrationFailed e) }
      obtain ⟨lease, found, same, used, -⟩ :=
        Pooled.released_of_acquired (p := failed) sound acquired
      have releasing :=
        Pooled.outcome_release found (congrArg Context.id same) used
      have attaching : m' = _ := congrArg Prod.snd
        (outcome_attach_failed MemoryHost.backend.recorded acquiring
          resolving releasing)
      have back := Pooled.release_keeps_session
        (MemoryHost.note_keeps_worked d.netnsKey m.session.host) context
        failed (opened.trans resolved)
      have kept := Pooled.release_faithful context failed named
      rw [releasing] at back kept
      rw [attaching]
      exact ⟨back, kept⟩
  · rw [acquiring] at opened named
    rcases f with e | message
    · have attaching : m' = _ := congrArg Prod.snd
        (outcome_attach_unopened MemoryHost.backend.recorded acquiring)
      rw [attaching]
      exact ⟨opened, named⟩
    · have answered := answers.openHandle d.netnsKey
        (m.session.noting (.contextPrepared d.netnsKey)) message
      rw [opening] at answered
      exact absurd rfl answered

end Attach

namespace Manager

/-- Nothing has happened on the host `h`, and the handles lead where they
should. -/
def Quiet (h : Traced) (m : Manager Traced) : Prop :=
  m.session.host = h ∧ m.pool.Faithful m.contexts

theorem bookkept_quiet (h : Traced) : Bookkept (Quiet h) where
  journal same quiet := ⟨same.trans quiet.1, quiet.2⟩
  registry _ quiet := quiet
  releases context := by
    intro m quiet
    have host := (Bookkept.of_host (· = h)).releases context m quiet.1
    have faithful := Pooled.release_faithful context m.toPooled quiet.2
    rw [release, outcome_onPool] at host ⊢
    exact ⟨host, faithful⟩

theorem host_bound (m : Manager η) (d : Device ε) (devName : String) :
    (m.bound d devName).outside.session.host = m.session.host := by
  simp only [bound, outside, withSession, Session.leaveSpan,
    Session.host_noting]
  split <;> rfl

end Manager

namespace DeviceState

theorem unregister_keeps_probe :
    (unregister : Action (DeviceState Traced MemoryHost.Adjustment)
      Unit).Keeps fun s => s.device.KeepsProbe := by
  refine getDevice_bind_keeps fun s keeps => ?_
  split
  · exact keeps
  · refine Keeps.bind (I := fun s => s.device.KeepsProbe) ?_ (fun _ => ?_)
      s keeps
    · exact changeDevice_keeps fun _ keeps => keeps
    · intro t keeps
      rw [outcome_onManager]
      exact keeps

end DeviceState

/-! ## Operations -/

/-- No callback that the operation sets moves the probe. -/
def DeviceOperation.keepsProbe :
    DeviceOperation MemoryHost.Adjustment → Bool
  | setCallback _ (some callback) => callback.all Instruction.keepsProbe
  | _ => true

namespace DeviceState

/-- What the operations of a device rely on. -/
structure Settled (s : DeviceState Traced MemoryHost.Adjustment) : Prop where
  current : s.manager.session.host.host.probe = .current
  sound : s.manager.pool.Sound s.manager.contexts
  faithful : s.manager.pool.Faithful s.manager.contexts
  held : ∀ context, s.device.context = some context →
    s.manager.pool.get? s.device.netnsKey = some context
  keepsProbe : s.device.KeepsProbe

/-- From `s` to `t` the device has worked for the namespace it selected, and
left everything as the next operation needs it. -/
structure Performs (s t : DeviceState Traced MemoryHost.Adjustment) :
    Prop where
  worked : Worked s.device.netnsKey s.manager.session.host
    t.manager.session.host
  faithful : t.manager.pool.Faithful t.manager.contexts
  keepsProbe : t.device.KeepsProbe

variable {s t : DeviceState Traced MemoryHost.Adjustment}

theorem Settled.leads (settled : s.Settled) (context : Context)
    (bound : s.device.context = some context) :
    s.manager.contexts.LeadsTo context s.device.netnsKey :=
  settled.faithful.leadsTo settled.sound (settled.held context bound)

theorem Settled.performs (settled : s.Settled) (attends : Attends s t) :
    Performs s t where
  worked := attends.worked
  faithful := by
    rw [attends.pool, attends.contexts]
    exact settled.faithful
  keepsProbe := attends.keepsProbe

theorem Performs.of_quiet (quiet : t.manager.Quiet s.manager.session.host)
    (keeps : t.device.KeepsProbe) : Performs s t where
  worked := by
    rw [quiet.1]
    exact .refl _ _
  faithful := quiet.2
  keepsProbe := keeps

theorem register_performs (settled : s.Settled) :
    Performs s (outcome (register MemoryHost.backend.recorded) s).2 := by
  cases registered : s.device.isRegistered with
  | true =>
    rw [outcome_register_registered _ registered]
    exact settled.performs (.refl settled.keepsProbe)
  | false =>
    have attached := Manager.attach_worked
      (m := s.manager.inside s.device.registering) settled.current
      settled.sound settled.faithful s.device
    rcases attaching : outcome (Manager.attach MemoryHost.backend.recorded
        s.device) (s.manager.inside s.device.registering)
      with ⟨f | ⟨context, devName⟩, m⟩ <;> rw [attaching] at attached
    · rw [outcome_register_failed _ registered attaching]
      exact ⟨attached.1, attached.2, settled.keepsProbe⟩
    · rw [outcome_register_attached _ registered attaching]
      refine ⟨?_, attached.2, settled.keepsProbe⟩
      rw [Manager.host_bound]
      exact attached.1

/-- Whatever a device does is done for its own namespace. -/
theorem perform_performs (settled : s.Settled)
    {operation : DeviceOperation MemoryHost.Adjustment}
    (keeps : operation.keepsProbe = true) :
    Performs s
      (outcome (perform MemoryHost.backend.recorded operation) s).2 := by
  have leads := settled.leads
  have by_attending : ∀ {act : Action (DeviceState Traced
      MemoryHost.Adjustment) Unit}, act.Keeps (Attends s) →
      Performs s (outcome act s).2 := fun hact =>
    settled.performs (hact s (.refl settled.keepsProbe))
  have configures : ∀ change : Device MemoryHost.Adjustment →
      Device MemoryHost.Adjustment,
      (∀ d, (change d).context = d.context) →
      (∀ d, (change d).callback = d.callback) →
      Keeps (Attends s) (changeDevice change) := by
    intro change context callback t attends
    refine attends.change (context _) ?_
    intro kind installed found
    rw [callback] at found
    exact attends.keepsProbe kind installed found
  have refuses : Keeps (Attends s) ensureUnregistered := by
    refine getDevice_bind_keeps fun t attends => ?_
    split
    · exact attends
    · exact attends
  cases operation with
  | setIfindex ifindex =>
    exact by_attending (refuses.bind fun _ =>
      configures _ (fun _ => rfl) fun _ => rfl)
  | setNetns netns =>
    exact by_attending (refuses.bind fun _ =>
      configures _ (fun _ => rfl) fun _ => rfl)
  | setOwnerData data =>
    exact by_attending (configures
      (fun device => { device with ownerData := some data })
      (fun _ => rfl) fun _ => rfl)
  | takeOwnerData =>
    exact by_attending (configures
      (fun device => { device with ownerData := none })
      (fun _ => rfl) fun _ => rfl)
  | setCallback kind callback =>
    refine by_attending fun t attends => attends.change
      (Device.setCallback_context _ _ _)
      (attends.keepsProbe.setCallback ?_ kind)
    rintro installed rfl
    exact List.all_eq_true.mp keeps
  | register => exact register_performs settled
  | unregister =>
    exact .of_quiet
      (unregister_keeps (Manager.bookkept_quiet _) (.of_manager _) s
        ⟨rfl, settled.faithful⟩)
      (unregister_keeps_probe s settled.keepsProbe)
  | bringUpDown up =>
    refine by_attending (getDevice_bind_keeps fun t attends => ?_)
    refine attends.onInterface settled.current leads "bring_up_down"
      fun devName h hh => ?_
    exact MemoryHost.noted_keeps_worked _
      (MemoryHost.setUp_keeps_worked hh devName up)
  | addAddress address length =>
    refine by_attending (getDevice_bind_keeps fun t attends => ?_)
    refine attends.onInterface settled.current leads "add_address"
      fun devName h hh => ?_
    exact MemoryHost.noted_keeps_worked _
      (MemoryHost.addAddress_keeps_worked hh devName address length)
  | addRoute destination length gateway =>
    refine by_attending (getDevice_bind_keeps fun t attends => ?_)
    refine attends.onInterface settled.current leads "add_route"
      fun devName h hh => ?_
    exact MemoryHost.noted_keeps_worked _
      (MemoryHost.addRoute_keeps_worked hh devName destination length gateway)
  | refresh =>
    exact by_attending (refresh_keeps_attends settled.current leads)
  | notify observation =>
    exact by_attending
      (notify_keeps_attends settled.current leads observation)

end DeviceState

end InterfaceManager

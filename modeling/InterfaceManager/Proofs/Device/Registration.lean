import InterfaceManager.Proofs.Device.Bookkeeping

/-!
# Registration keeps the books

Every step in the life of a device, from its allocation over registering
and unregistering to its end, turns sound books into sound books, whatever
the backend answers.  A registration that fails leaves the device, the
registry and the pool as they were; none of these steps ends with a panic.
-/

namespace InterfaceManager

open InterfaceManager.Action

namespace DeviceState

variable (s : DeviceState η ε)

@[simp] theorem outcome_getDevice :
    outcome (getDevice : Action (DeviceState η ε) (Device ε)) s =
      (.ok s.device, s) := rfl

@[simp] theorem outcome_changeDevice (change : Device ε → Device ε) :
    outcome (changeDevice change : Action (DeviceState η ε) Unit) s =
      (.ok (), { s with device := change s.device }) := rfl

@[simp] theorem outcome_report (r : Report ε) :
    outcome (report r : Action (DeviceState η ε) Unit) s =
      (.ok (), { s with reports := s.reports ++ [r] }) := rfl

@[simp] theorem outcome_onManager (act : Action (Manager η) α) :
    outcome (onManager act) s =
      ((outcome act s.manager).1,
        { s with manager := (outcome act s.manager).2 }) := by
  simp [onManager]

@[simp] theorem outcome_note (n : Notice) :
    outcome (note n) s =
      (.ok (), { s with manager :=
        s.manager.withSession (s.manager.session.noting n) }) := by
  simp [note]

/-- A device is configured only while it is unregistered. -/
theorem outcome_configure (change : Device ε → Device ε) :
    outcome (do ensureUnregistered; changeDevice change) s =
      if s.device.isRegistered then
        (.error (.error (.alreadyRegistered s.device.name)), s)
      else (.ok (), { s with device := change s.device }) := by
  by_cases registered : s.device.isRegistered = true
  · simp [ensureUnregistered, outcome_bind, registered]
  · simp [ensureUnregistered, outcome_bind, registered]

end DeviceState

namespace Manager

/-- The manager after the allocation of a device called `name`. -/
def allocated (m : Manager η) (name : String) : Manager η :=
  { m with
    registry := (m.registry.insert name).2
    session := m.session.noting (.deviceAllocated name m.registry.next) }

theorem outcome_allocate (name : String) (m : Manager η) :
    outcome (allocate name : Action (Manager η) (Device ε)) m =
      (.ok (.fresh ⟨m.registry.next⟩ name), m.allocated name) := by
  simp [allocate, outcome_bind, outcome_map, Except.map, Registry.insert,
    withSession, allocated]

theorem changes_allocated (m : Manager η) (name : String) :
    (m.allocated name).session.changes = m.session.changes :=
  Session.changes_noting_other rfl

theorem Sound.allocate {backend : Backend η ε} {m : Manager η}
    {devices : List (Device ε)} (sound : m.Sound backend devices)
    (name : String) :
    (m.allocated name).Sound backend
      (.fresh ⟨m.registry.next⟩ name :: devices) where
  leased := (Pool.Leased.cons_iff (Device.fresh_context _ _)).mpr sound.leased
  listed := sound.listed.insert name
  coherent := by
    intro d hd
    rcases List.mem_cons.mp hd with rfl | old
    · exact Device.fresh_coherent _ _
    · exact sound.coherent d old
  unrefused := fun discreet => (sound.unrefused discreet).noting rfl

/-! ## Attaching -/

section Attach

variable (backend : Backend η ε) {d : Device ε} {m : Manager η}
  {context : Context} {p : Pooled η}

theorem outcome_attach_unopened {e : Error}
    (acquiring : outcome (Pooled.acquire backend.provider d.netnsKey)
      m.toPooled = (.error (.error e), p)) :
    outcome (attach backend d) m =
      (.error (.error (.contextAcquisition d.netnsKey e)),
        m.withPooled p) := by
  simp [attach, acquire, outcome_bind, outcome_mapError, acquiring]

/-- The session after the name of the interface has been resolved inside the
namespace of the context. -/
theorem outcome_attach_resolved {devName : String} {t : Session η}
    (acquiring : outcome (Pooled.acquire backend.provider d.netnsKey)
      m.toPooled = (.ok context, p))
    (resolving : outcome (runInNamespace backend.provider context
      (p.contexts.handle? context) "register"
      (backend.links.resolveName d.ifindex)) p.session = (.ok devName, t)) :
    outcome (attach backend d) m =
      (.ok (context, devName), m.withPooled { p with session := t }) := by
  simp [attach, acquire, outcome_bind, outcome_mapError, acquiring,
    outcome_tried, outcome_within, resolving, withPooled, withSession]

theorem outcome_attach_failed {e : Error} {t : Session η} {q : Pooled η}
    (acquiring : outcome (Pooled.acquire backend.provider d.netnsKey)
      m.toPooled = (.ok context, p))
    (resolving : outcome (runInNamespace backend.provider context
      (p.contexts.handle? context) "register"
      (backend.links.resolveName d.ifindex)) p.session =
        (.error (.error e), t))
    (releasing : outcome (Pooled.release context)
      { p with session := t.noting (.registrationFailed e) } = (.ok (), q)) :
    outcome (attach backend d) m = (.error (.error e), m.withPooled q) := by
  simp [attach, acquire, release, outcome_bind, outcome_mapError, acquiring,
    outcome_tried, outcome_within, resolving, withPooled, withSession,
    releasing]

/-- Resolving the name of the interface in an open context is nothing to
remark upon. -/
theorem remarks_resolve (discreet : backend.Discreet)
    (isOpen : p.contexts.isOpen context = true) (ifindex : IfIndex) :
    (outcome (runInNamespace backend.provider context
      (p.contexts.handle? context) "register"
      (backend.links.resolveName ifindex)) p.session).2.remarks =
      p.session.remarks := by
  rw [Contexts.isOpen, Bool.or_eq_true] at isOpen
  exact runInNamespace_keeps_remarks discreet.enter discreet.exit isOpen
    "register" (I := fun remarks => remarks = p.session.remarks)
    (fun s same => (discreet.resolveName ifindex s).trans same) p.session rfl

/-- Attaching takes one lease of the namespace, or fails and leaves the
leases as they were. -/
theorem attach_cases (answers : backend.Answers)
    (sound : m.pool.Sound m.contexts) (d : Device ε) :
    (∃ context devName q,
      outcome (attach backend d) m =
        (.ok (context, devName), m.withPooled q) ∧
      Pool.Acquired d.netnsKey m.contexts m.pool context q.contexts q.pool ∧
      (backend.Discreet → q.session.remarks = m.session.remarks)) ∨
    ∃ e q,
      outcome (attach backend d) m = (.error (.error e), m.withPooled q) ∧
      q.pool = m.pool ∧ q.contexts.Extends m.contexts ∧
      (backend.Discreet → q.session.remarks = m.session.remarks ∨
        ∃ cause, q.session.remarks =
          m.session.remarks ++ [.registrationFailed cause]) := by
  have remarks : backend.Discreet →
      (outcome (Pooled.acquire backend.provider d.netnsKey)
        m.toPooled).2.session.remarks = m.session.remarks := fun discreet =>
    Pooled.acquire_remarks discreet.openHandle d.netnsKey m.toPooled
  rcases Pooled.acquire_cases backend.provider d.netnsKey m.toPooled
    with ⟨context, p, acquiring, acquired⟩ | ⟨f, t, -, -, opening, acquiring⟩
  · rw [acquiring] at remarks
    have run := runInNamespace_answers answers.enter answers.exit context
      (p.contexts.handle? context) "register" (answers.resolveName d.ifindex)
    have silent := fun discreet : backend.Discreet =>
      (remarks_resolve backend discreet (acquired.isOpen sound)
        d.ifindex).trans (remarks discreet)
    rcases run.cases p.session
      with ⟨devName, t, resolving⟩ | ⟨e, t, resolving⟩
    · rw [resolving] at silent
      exact Or.inl ⟨context, devName, _,
        outcome_attach_resolved backend acquiring resolving, acquired, silent⟩
    · rw [resolving] at silent
      let failed : Pooled η :=
        { p with session := t.noting (.registrationFailed e) }
      obtain ⟨lease, found, same, used, pool, extension⟩ :=
        Pooled.released_of_acquired (p := failed) sound acquired
      have releasing :=
        Pooled.outcome_release found (congrArg Context.id same) used
      refine Or.inr ⟨e, _,
        outcome_attach_failed backend acquiring resolving releasing, pool,
        extension, fun discreet => Or.inr ⟨e, ?_⟩⟩
      have noted := Session.remarks_noting t (.registrationFailed e)
      rw [silent discreet] at noted
      exact (Pooled.remarks_released failed context lease).trans noted
  · rw [acquiring] at remarks
    rcases f with e | message
    · exact Or.inr ⟨_, _, outcome_attach_unopened backend acquiring, rfl,
        .refl _, fun discreet => Or.inl (remarks discreet)⟩
    · have answered := answers.openHandle d.netnsKey
        (m.session.noting (.contextPrepared d.netnsKey)) message
      rw [opening] at answered
      exact absurd rfl answered

/-- A device is not attached because there is no context, or because its name
cannot be resolved. -/
theorem attach_error_cases (answers : backend.Answers)
    (sound : m.pool.Sound m.contexts) {e : Error} {m' : Manager η}
    (failing : outcome (attach backend d) m = (.error (.error e), m')) :
    (∃ source, e = .contextAcquisition d.netnsKey source) ∨
    ∃ context handle s t,
      outcome (runInNamespace backend.provider context handle "register"
        (backend.links.resolveName d.ifindex)) s = (.error (.error e), t) := by
  rcases Pooled.acquire_cases backend.provider d.netnsKey m.toPooled
    with ⟨context, p, acquiring, acquired⟩ | ⟨f, t, -, -, opening, acquiring⟩
  · have run := runInNamespace_answers answers.enter answers.exit context
      (p.contexts.handle? context) "register" (answers.resolveName d.ifindex)
    rcases run.cases p.session
      with ⟨devName, t, resolving⟩ | ⟨cause, t, resolving⟩
    · rw [outcome_attach_resolved backend acquiring resolving] at failing
      cases failing
    · obtain ⟨lease, found, same, used, -, -⟩ := Pooled.released_of_acquired
        (p := { p with session := t.noting (.registrationFailed cause) })
        sound acquired
      have releasing :=
        Pooled.outcome_release found (congrArg Context.id same) used
      rw [outcome_attach_failed backend acquiring resolving releasing]
        at failing
      cases failing
      exact Or.inr ⟨context, _, p.session, t, resolving⟩
  · rcases f with source | message
    · rw [outcome_attach_unopened backend acquiring] at failing
      cases failing
      exact Or.inl ⟨source, rfl⟩
    · have answered := answers.openHandle d.netnsKey
        (m.session.noting (.contextPrepared d.netnsKey)) message
      rw [opening] at answered
      exact absurd rfl answered

end Attach

end Manager

/-! ## Registering -/

namespace Device

def registering (d : Device ε) : Span :=
  ⟨d.name, none, d.ifindex, d.netnsKey⟩

/-- The device while it is registered. -/
def attached (d : Device ε) (context : Context) (devName : String) :
    Device ε :=
  { d with devName := some devName, context := some context }

/-- The device after it has been unregistered. -/
def detached (d : Device ε) : Device ε :=
  { d with context := none, up := none, mtu := none, devName := none }

/-- The changes of a device that are reported when it is freed. -/
def farewell (d : Device ε) : List Change :=
  if d.isRegistered then [.unregistered] else []

theorem farewell_eq_nil {d : Device ε} (unbound : d.context = none) :
    d.farewell = [] := by
  simp [farewell, isRegistered_eq_false unbound]

theorem farewell_eq_singleton {d : Device ε} {context : Context}
    (bound : d.context = some context) : d.farewell = [.unregistered] := by
  simp [farewell, isRegistered_eq_true bound]

end Device

namespace Manager

def inside (m : Manager η) (span : Span) : Manager η :=
  m.withSession (m.session.enterSpan span)

def outside (m : Manager η) : Manager η :=
  m.withSession m.session.leaveSpan

/-- The warning about other devices on the interface of a new one. -/
def warning (devName : String) (others : Nat) : List Notice :=
  if others = 0 then [] else [.interfaceShared devName others]

/-- The manager after an attached device has been bound to its interface,
which is called `devName`. -/
def bound (m : Manager η) (d : Device ε) (devName : String) : Manager η :=
  let others := m.registry.boundTo d.selected
  let noted :=
    if others = [] then m.session
    else m.session.noting (.interfaceShared devName others.length)
  { m with
    registry := m.registry.bind d.id d.selected
    session := noted.noting
      (.lifecycle d.name (.registered devName d.ifindex d.netnsKey)) }

theorem remarks_bound (m : Manager η) (d : Device ε) (devName : String) :
    (m.bound d devName).session.remarks =
      m.session.remarks ++
        warning devName (m.registry.boundTo d.selected).length ++
        [.lifecycle d.name (.registered devName d.ifindex d.netnsKey)] := by
  rcases hothers : m.registry.boundTo d.selected with _ | ⟨id, others⟩ <;>
    simp [bound, warning, hothers, Session.remarks_noting, Notice.isRemark]

/-- The registration is the only change that is reported. -/
theorem changes_bound (m : Manager η) (d : Device ε) (devName : String) :
    (m.bound d devName).session.changes =
      m.session.changes ++
        [(d.name, .registered devName d.ifindex d.netnsKey)] := by
  have warned : (warning devName
      (m.registry.boundTo d.selected).length).filterMap Notice.change? = [] := by
    rw [warning]
    split <;> rfl
  rw [Session.changes_eq, remarks_bound, List.filterMap_append,
    List.filterMap_append, warned, List.append_nil, ← Session.changes_eq]
  rfl

end Manager

namespace DeviceState

section

variable (backend : Backend η ε) {s : DeviceState η ε}

theorem outcome_register_registered
    (registered : s.device.isRegistered = true) :
    outcome (register backend) s =
      (.error (.error (.alreadyRegistered s.device.name)), s) := by
  simp [register, ensureUnregistered, outcome_bind, registered]

theorem outcome_register_attached
    (unregistered : s.device.isRegistered = false)
    {context : Context} {devName : String} {m : Manager η}
    (attaching : outcome (Manager.attach backend s.device)
      (s.manager.inside s.device.registering) = (.ok (context, devName), m)) :
    outcome (register backend) s =
      (.ok (), { s with
        manager := (m.bound s.device devName).outside
        device := s.device.attached context devName }) := by
  simp only [Manager.inside, Device.registering] at attaching
  by_cases alone : m.registry.boundTo s.device.selected = [] <;>
    simp [register, ensureUnregistered, outcome_bind, outcome_map, Except.map,
      unregistered, Manager.outcome_inSpan, attaching, Manager.bind, alone,
      Manager.bound, Manager.outside, Device.attached] <;>
    rfl

theorem outcome_register_failed
    (unregistered : s.device.isRegistered = false)
    {f : Fault} {m : Manager η}
    (attaching : outcome (Manager.attach backend s.device)
      (s.manager.inside s.device.registering) = (.error f, m)) :
    outcome (register backend) s =
      (.error f, { s with manager := m.outside }) := by
  simp only [Manager.inside, Device.registering] at attaching
  simp [register, ensureUnregistered, outcome_bind, unregistered,
    Manager.outcome_inSpan, attaching, Manager.outside]

end

end DeviceState

/-- Binding an attached device keeps the books. -/
theorem Manager.Sound.bound {backend : Backend η ε} {m m' : Manager η}
    {d : Device ε} {rest : List (Device ε)}
    (sound : m.Sound backend (d :: rest)) (unbound : d.context = none)
    {context : Context} (devName : String)
    (acquired : Pool.Acquired d.netnsKey m.contexts m.pool context
      m'.contexts m'.pool)
    (registry : m'.registry = m.registry)
    (remarks : backend.Discreet → m'.session.remarks = m.session.remarks) :
    (m'.bound d devName).outside.Sound backend
      (d.attached context devName :: rest) where
  leased :=
    ((Pool.Leased.cons_iff unbound).mp sound.leased).acquire
      (d := d.attached context devName) acquired rfl
  listed := by
    have listed := sound.listed
    rw [← registry, List.map_cons, Device.entry, Device.record_eq_none unbound]
      at listed
    exact listed.setBinding (some d.selected)
  coherent := by
    intro other hother
    rcases List.mem_cons.mp hother with rfl | old
    · refine ⟨rfl, fun unbound => ?_⟩
      cases unbound
    · exact sound.coherent other (List.mem_cons_of_mem d old)
  unrefused := by
    intro discreet netns operation hmem
    have hremarks : (m'.bound d devName).outside.session.remarks =
        (m'.bound d devName).session.remarks := rfl
    rw [hremarks, Manager.remarks_bound, remarks discreet] at hmem
    simp only [Manager.warning, List.mem_append, List.mem_singleton] at hmem
    rcases hmem with (old | shared) | registered
    · exact sound.unrefused discreet netns operation old
    · split at shared <;> simp at shared
    · cases registered

namespace DeviceState

variable {backend : Backend η ε} {s : DeviceState η ε}
  {rest : List (Device ε)}

/-- The registration of a device that is not registered either binds it to
an attached context, or ends with an error and changes neither the device
nor the books. -/
theorem register_cases (answers : backend.Answers)
    (sound : s.manager.Sound backend (s.device :: rest))
    (unbound : s.device.context = none) :
    (∃ context devName m,
      outcome (Manager.attach backend s.device)
        (s.manager.inside s.device.registering) =
          (.ok (context, devName), m) ∧
      outcome (register backend) s =
        (.ok (), { s with
          manager := (m.bound s.device devName).outside
          device := s.device.attached context devName }) ∧
      Pool.Acquired s.device.netnsKey s.manager.contexts s.manager.pool
        context m.contexts m.pool ∧
      m.registry = s.manager.registry ∧
      (backend.Discreet →
        m.session.remarks = s.manager.session.remarks)) ∨
    ∃ e m,
      outcome (register backend) s =
        (.error (.error e), { s with manager := m }) ∧
      m.pool = s.manager.pool ∧
      m.contexts.Extends s.manager.contexts ∧
      m.registry = s.manager.registry ∧
      m.Sound backend (s.device :: rest) ∧
      (backend.Discreet →
        m.session.remarks = s.manager.session.remarks ∨
        ∃ cause, m.session.remarks =
          s.manager.session.remarks ++ [.registrationFailed cause]) := by
  have unregistered := Device.isRegistered_eq_false unbound
  rcases Manager.attach_cases backend answers
      (m := s.manager.inside s.device.registering) sound.leased.sound s.device
    with ⟨context, devName, p, attaching, acquired, remarks⟩ |
      ⟨e, p, attaching, pool, extension, remarks⟩
  · exact Or.inl ⟨context, devName, _, attaching,
      outcome_register_attached backend unregistered attaching, acquired, rfl,
      remarks⟩
  · refine Or.inr ⟨e, _, outcome_register_failed backend unregistered attaching,
      pool, extension, rfl, ?_, remarks⟩
    have same : p.pool = s.manager.pool := pool
    exact {
      leased := by
        have leased := sound.leased.extend extension
        rw [← same] at leased
        exact leased
      listed := sound.listed
      coherent := sound.coherent
      unrefused := by
        intro discreet
        have unrefused := sound.unrefused discreet
        rcases remarks discreet with same | ⟨cause, failed⟩
        · exact Session.unrefused_of_remarks_eq same unrefused
        · have noted := unrefused.noting (n := .registrationFailed cause) rfl
          refine Session.unrefused_of_remarks_eq ?_ noted
          exact failed.trans (s.manager.session.remarks_noting
            (.registrationFailed cause)).symm }

/-- A device is not registered if it is registered already, or if it cannot be
attached. -/
theorem register_error_cases (answers : backend.Answers)
    (sound : s.manager.Sound backend (s.device :: rest)) {e : Error}
    {t : DeviceState η ε}
    (failing : outcome (register backend) s = (.error (.error e), t)) :
    e = .alreadyRegistered s.device.name ∨
    (∃ source, e = .contextAcquisition s.device.netnsKey source) ∨
    ∃ context handle s' t',
      outcome (runInNamespace backend.provider context handle "register"
        (backend.links.resolveName s.device.ifindex)) s' =
          (.error (.error e), t') := by
  cases registered : s.device.isRegistered with
  | true =>
    rw [outcome_register_registered backend registered] at failing
    cases failing
    exact Or.inl rfl
  | false =>
    rcases attaching : outcome (Manager.attach backend s.device)
        (s.manager.inside s.device.registering)
      with ⟨f | ⟨context, devName⟩, m⟩
    · rw [outcome_register_failed backend registered attaching] at failing
      cases failing
      exact Or.inr <| Manager.attach_error_cases backend answers
        (m := s.manager.inside s.device.registering) sound.leased.sound
        attaching
    · rw [outcome_register_attached backend registered attaching] at failing
      cases failing

/-! ## Unregistering and freeing -/

theorem outcome_unregister_unbound (unbound : s.device.context = none) :
    outcome unregister s =
      (.error (.error (.alreadyUnregistered s.device.name)), s) := by
  simp [unregister, outcome_bind, unbound]

/-- A registered device can always be unregistered. -/
theorem unregister_succeeds
    (sound : s.manager.Sound backend (s.device :: rest)) {context : Context}
    (bound : s.device.context = some context) :
    ∃ m, outcome unregister s =
        (.ok (), { s with manager := m, device := s.device.detached }) ∧
      m.Sound backend (s.device.detached :: rest) ∧
      m.registry = s.manager.registry.unbind s.device.id ∧
      m.session.remarks = s.manager.session.remarks ++
        [.lifecycle s.device.name .unregistered] := by
  obtain ⟨-, lease, found, same, used⟩ :=
    sound.leased.lease List.mem_cons_self bound
  have releasing := Pooled.outcome_release (p := s.manager.toPooled) found
    (congrArg Context.id same) used
  have released := Pooled.released_released (p := s.manager.toPooled) found used
  let q := s.manager.toPooled.released context lease
  let m : Manager η :=
    { q with
      registry := s.manager.registry.unbind s.device.id
      session := q.session.noting (.lifecycle s.device.name .unregistered) }
  have silent : q.session.remarks = s.manager.session.remarks :=
    Pooled.remarks_released s.manager.toPooled context lease
  refine ⟨m, ?_, ?_, rfl, ?_⟩
  · simp [unregister, outcome_bind, bound, Manager.release, releasing,
      Manager.withPooled, Device.detached, m, q]
    rfl
  · exact {
      leased := by
        have leased := sound.leased.release bound released
        exact (Pool.Leased.cons_iff rfl).mpr leased
      listed := sound.listed.setBinding none
      coherent := by
        intro other hother
        rcases List.mem_cons.mp hother with rfl | old
        · exact ⟨rfl, fun _ => ⟨rfl, rfl⟩⟩
        · exact sound.coherent other (List.mem_cons_of_mem _ old)
      unrefused := fun discreet =>
        (Session.unrefused_of_remarks_eq silent
          (sound.unrefused discreet)).noting rfl }
  · rw [← silent]
    exact Session.remarks_noting _ _

end DeviceState

namespace Manager

/-- The manager after an unregistered device has been freed. -/
def forgetting (m : Manager η) (d : Device ε) : Manager η :=
  { m with
    registry := m.registry.remove d.id
    session := m.session.noting (.deviceFreed d.name) }

variable {backend : Backend η ε} {m : Manager η} {d : Device ε}
  {rest : List (Device ε)}

theorem Sound.forget (sound : m.Sound backend (d :: rest))
    (unbound : d.context = none) : (m.forgetting d).Sound backend rest where
  leased := (Pool.Leased.cons_iff unbound).mp sound.leased
  listed := by
    have listed := sound.listed
    rw [List.map_cons, Device.entry] at listed
    exact listed.remove
  coherent := fun other hother =>
    sound.coherent other (List.mem_cons_of_mem d hother)
  unrefused := fun discreet => (sound.unrefused discreet).noting rfl

theorem outcome_free_unbound (unbound : d.context = none) :
    outcome (free d) m = (.ok (), m.forgetting d) := by
  simp [free, DeviceState.free, outcome_bind,
    Device.isRegistered_eq_false unbound, forgetting, withSession]

theorem changes_forgetting (m : Manager η) (d : Device ε) :
    (m.forgetting d).session.changes = m.session.changes :=
  Session.changes_noting_other rfl

/-- A device can always be freed, and the books close over it.  It is
reported as unregistered if it had been registered. -/
theorem free_succeeds (sound : m.Sound backend (d :: rest)) :
    ∃ m', outcome (free d) m = (.ok (), m') ∧ m'.Sound backend rest ∧
      m'.registry.next = m.registry.next ∧
      m'.session.changes =
        m.session.changes ++ d.farewell.map fun change => (d.name, change) := by
  rcases hcontext : d.context with _ | context
  · refine ⟨m.forgetting d, outcome_free_unbound hcontext,
      sound.forget hcontext, rfl, ?_⟩
    simp [changes_forgetting, Device.farewell_eq_nil hcontext]
  · have registered := Device.isRegistered_eq_true hcontext
    obtain ⟨m', unregistering, sound', registry, remarks⟩ :=
      DeviceState.unregister_succeeds (s := ⟨m, d, []⟩) sound hcontext
    refine ⟨m'.forgetting d, ?_, sound'.forget rfl, ?_, ?_⟩
    · simp [free, DeviceState.free, outcome_bind, unregistering, registered,
        forgetting, withSession]
    · have unbound : (m'.forgetting d).registry.next = m'.registry.next := rfl
      rw [unbound, registry]
      rfl
    · rw [changes_forgetting, Session.changes_eq, remarks,
        List.filterMap_append, ← Session.changes_eq,
        Device.farewell_eq_singleton hcontext]
      rfl

end Manager

end InterfaceManager

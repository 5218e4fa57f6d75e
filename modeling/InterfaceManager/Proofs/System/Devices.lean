import InterfaceManager.Proofs.Device.Observation
import InterfaceManager.Proofs.Namespace.Calls
import InterfaceManager.Proofs.System.Namespaces
import InterfaceManager.Proofs.System.Queries

/-!
# A device of a machine

One device is registered on a machine that lets its thread back, its
interface is observed, and the device is freed.  The registration succeeds
exactly if the name of the namespace leads to one that has the interface.
The observation stores what the kernel knows of the interface.  None of this
leaves a trace on the machine.
-/

namespace InterfaceManager

open InterfaceManager.Action

namespace Machine

variable {config : NamespaceConfig}

/-- The namespace that a name stands for. -/
def destination? (config : NamespaceConfig) (m : Machine) (name : String) :
    Option String :=
  if name = "" then some m.current
  else (m.offered? config name).bind m.namespaceOf?

/-- The namespace that a name selects.  The empty name selects the one that the
thread is in, an absolute path the one that its file is attached to, and any
other name the one that the entry of the directory with this name is attached
to. -/
inductive Selects (m : Machine) (dir : Text.Octets) : String → String → Prop
  | current : m.Selects dir "" m.current
  | absolute {path netns : String} {object : FileObject}
      (rooted : path.toList.head? = some '/')
      (opened : m.openFile (Text.octets path) = .ok object)
      (attached : m.namespaceOf? object = some netns) :
      m.Selects dir path netns
  | entry {name netns : String} {object : FileObject}
      (proper : name ≠ "" ∧ name ≠ "." ∧ name ≠ ".." ∧ '/' ∉ name.toList)
      (opened : m.openFile (Path.join dir (Text.octets name)) = .ok object)
      (attached : m.namespaceOf? object = some netns) :
      m.Selects dir name netns

theorem selects_iff (config : NamespaceConfig) {m : Machine}
    {name netns : String} :
    m.Selects config.runDir name netns ↔
      m.destination? config name = some netns := by
  rw [destination?]
  constructor
  · rintro (_ | ⟨rooted, opened, attached⟩ | ⟨proper, opened, attached⟩)
    · exact if_pos rfl
    · have somewhere : name ≠ "" := by
        rintro rfl
        cases rooted
      have located : config.namespacePath? name = some (Text.octets name) :=
        if_pos (Text.isAbsolute_octets_iff.mpr rooted)
      rw [if_neg somewhere, offered?, located, Option.bind_some, opened]
      exact attached
    · have entry : Path.IsEntryName (Text.octets name) :=
        Path.isEntryName_octets_iff.mpr (by simpa using proper)
      rw [if_neg proper.1, offered?, config.namespacePath?_entry entry,
        Option.bind_some, NamespaceConfig.entryPath, opened]
      exact attached
  · intro leads
    split at leads
    · next empty =>
      subst empty
      cases leads
      exact .current
    · next somewhere =>
      obtain ⟨object, offered, attached⟩ := Option.bind_eq_some_iff.mp leads
      obtain ⟨path, located, opening⟩ := Option.bind_eq_some_iff.mp offered
      have opened : m.openFile path = .ok object := by
        rcases answer : m.openFile path with fault | found
        · rw [answer] at opening
          cases opening
        · rw [answer] at opening
          cases opening
          rfl
      rcases config.namespacePath?_cases name with
        ⟨absolute, same⟩ | ⟨-, -, refused⟩ | ⟨-, entry, same⟩
      · cases located.symm.trans same
        exact .absolute (Text.isAbsolute_octets_iff.mp absolute) opened attached
      · rw [refused] at located
        cases located
      · cases located.symm.trans same
        have proper := Path.isEntryName_octets_iff.mp entry
        simp only [not_or] at proper
        exact .entry proper opened attached

/-! ## Attaching -/

/-- The first acquisition of a name takes a context that leads where the name
does, unless there is nothing to open. -/
theorem acquire_leads (config : NamespaceConfig) {p : Pooled Machine}
    {name : String} (missing : p.pool.lease? name = none) :
    (∃ context q,
      outcome (Pooled.acquire (provider config) name) p = (.ok context, q) ∧
      Pool.Acquired name p.contexts p.pool context q.contexts q.pool ∧
      q.session.host = p.session.host ∧
      p.session.host.leadsTo? context (q.contexts.handle? context) =
        p.session.host.destination? config name) ∨
    p.session.host.destination? config name = none ∧ ∃ e t,
      outcome (Pooled.acquire (provider config) name) p =
        (.error (.error e), { p with session := t }) ∧
      t.host = p.session.host := by
  by_cases default : name = ""
  · subst default
    refine Or.inl ⟨_, _, Pooled.outcome_acquire_default _ missing,
      .created missing (Or.inl rfl), rfl, ?_⟩
    simp [leadsTo?, destination?, Context.isDefault, Contexts.create]
  · let asked := p.session.noting (.contextPrepared name)
    rcases offered : p.session.host.offered? config name with _ | object
    · obtain ⟨message, t, opening, same⟩ := open_refused (s := asked) offered
      refine Or.inr ⟨?_, _, t,
        Pooled.outcome_acquire_unopened _ missing default opening, same⟩
      simp [destination?, default, offered]
    · obtain ⟨t, opening, same⟩ := open_known (s := asked) offered
      refine Or.inl ⟨_, _,
        Pooled.outcome_acquire_opened _ missing default opening,
        .created missing (Or.inr rfl), same, ?_⟩
      have named : (p.contexts.create name
          (some ⟨name, some object⟩)).1.isDefault = false := by
        simp [Context.isDefault, Contexts.create, default]
      have held : (p.added name (some ⟨name, some object⟩) t).contexts.handle?
          (p.contexts.create name (some ⟨name, some object⟩)).1 =
            some ⟨name, some object⟩ := Contexts.handle?_create _ _ _
      rw [held]
      simp [leadsTo?, named, destination?, default, offered]

section Attach

variable {m : Manager Machine} {d : Device Change}
  (missing : m.pool.lease? d.netnsKey = none)
  (serviceable : m.session.host.Serviceable config)

include missing serviceable

/-- A device is attached to an interface that is there. -/
theorem attach_found {netns name : String} {l : KernelLink}
    (leads : m.session.host.destination? config d.netnsKey = some netns)
    (found : m.session.host.kernel.linkAt? netns d.ifindex = some l)
    (spelled : Text.octets name = Kernel.visibleName l.name) :
    ∃ context p,
      outcome (Manager.attach (backend config) d) m =
        (.ok (context, name), m.withPooled p) ∧
      p.session.host = m.session.host ∧
      m.session.host.leadsTo? context (p.contexts.handle? context) =
        some netns := by
  rcases acquire_leads config missing with
    ⟨context, p, acquiring, -, same, reaches⟩ | ⟨nowhere, -⟩
  · rw [leads] at reaches
    obtain ⟨t, resolving, untouched⟩ := run_yields (s := p.session)
      "register" (by rw [same]; exact serviceable) (by rw [same]; exact reaches)
      (by rw [same]; exact Kernel.yields_name found spelled)
    exact ⟨context, { p with session := t },
      Manager.outcome_attach_resolved (backend config) acquiring resolving,
      untouched.trans same, reaches⟩
  · rw [leads] at nowhere
    cases nowhere

/-- A device is not attached to an interface that is not there. -/
theorem attach_lost (sound : m.pool.Sound m.contexts)
    (lost : ∀ netns,
      m.session.host.destination? config d.netnsKey = some netns →
      m.session.host.kernel.linkAt? netns d.ifindex = none) :
    ∃ e p,
      outcome (Manager.attach (backend config) d) m =
        (.error (.error e), m.withPooled p) ∧
      p.session.host = m.session.host := by
  rcases acquire_leads config missing with
    ⟨context, p, acquiring, acquired, same, reaches⟩ |
      ⟨-, e, t, acquiring, same⟩
  · have returns : p.session.host.Serviceable config := by
      rw [same]
      exact serviceable
    obtain ⟨e, t, resolving, untouched⟩ : ∃ e t,
        outcome (runInNamespace (provider config) context
          (p.contexts.handle? context) "register" (resolveName d.ifindex))
          p.session = (.error (.error e), t) ∧
        t.host = p.session.host := by
      rcases leads : m.session.host.destination? config d.netnsKey
        with _ | netns
      · rw [leads] at reaches
        exact run_astray returns (by rw [same]; exact reaches)
      · rw [leads] at reaches
        exact ⟨_, run_yields _ returns (by rw [same]; exact reaches)
          (by rw [same]; exact Kernel.yields_unresolved (lost netns leads))⟩
    let failed : Pooled Machine :=
      { p with session := t.noting (.registrationFailed e) }
    obtain ⟨lease, found, pooled, used, -, -⟩ :=
      Pooled.released_of_acquired (p := failed) sound acquired
    have releasing :=
      Pooled.outcome_release found (congrArg Context.id pooled) used
    refine ⟨e, _, Manager.outcome_attach_failed (backend config) acquiring
      resolving releasing, ?_⟩
    exact (Pooled.host_released failed context lease).trans
      (untouched.trans same)
  · exact ⟨_, _, Manager.outcome_attach_unopened (backend config) acquiring,
      same⟩

end Attach

end Machine

/-- The device once the state of its interface has been observed. -/
def Device.observing (d : Device ε) (state : LinkState) : Device ε :=
  { d with up := some state.up, mtu := some state.mtu }

namespace DeviceState

theorem outcome_setIfindex (ifindex : IfIndex)
    {s : DeviceState η ε} (unbound : s.device.context = none) :
    outcome (setIfindex ifindex) s =
      (.ok (), { s with device := { s.device with ifindex } }) := by
  simp [setIfindex, outcome_configure,
    Device.isRegistered_eq_false unbound]

theorem outcome_setNetns (netns : Option String)
    {s : DeviceState η ε} (unbound : s.device.context = none) :
    outcome (setNetns netns) s =
      (.ok (), { s with device := { s.device with netns } }) := by
  simp [setNetns, outcome_configure,
    Device.isRegistered_eq_false unbound]

/-! ## Registering -/

section Register

variable {config : NamespaceConfig} {s : DeviceState Machine Machine.Change}
  (unbound : s.device.context = none)
  (missing : s.manager.pool.lease? s.device.netnsKey = none)
  (serviceable : s.manager.session.host.Serviceable config)

include unbound missing serviceable

theorem register_found {netns name : String} {l : KernelLink}
    (leads : s.manager.session.host.destination? config s.device.netnsKey =
      some netns)
    (found : s.manager.session.host.kernel.linkAt? netns s.device.ifindex =
      some l)
    (spelled : Text.octets name = Kernel.visibleName l.name) :
    ∃ context m,
      outcome (register (Machine.backend config)) s =
        (.ok (), { s with
          manager := m, device := s.device.attached context name }) ∧
      m.session.host = s.manager.session.host ∧
      m.session.host.leadsTo? context (m.contexts.handle? context) =
        some netns := by
  obtain ⟨context, p, attaching, same, reaches⟩ := Machine.attach_found
    (m := s.manager.inside s.device.registering) missing serviceable leads
    found spelled
  let m := (s.manager.inside s.device.registering).withPooled p
  have host : (m.bound s.device name).outside.session.host =
      p.session.host := by
    by_cases alone : m.registry.boundTo s.device.selected = [] <;>
      simp [Manager.bound, alone, Manager.outside, Manager.withSession] <;> rfl
  refine ⟨context, (m.bound s.device name).outside,
    outcome_register_attached (Machine.backend config)
      (Device.isRegistered_eq_false unbound) attaching,
    host.trans same, ?_⟩
  rw [host, same]
  exact reaches

theorem register_lost
    (sound : s.manager.pool.Sound s.manager.contexts)
    (lost : ∀ netns,
      s.manager.session.host.destination? config s.device.netnsKey =
        some netns →
      s.manager.session.host.kernel.linkAt? netns s.device.ifindex = none) :
    ∃ e m,
      outcome (register (Machine.backend config)) s =
        (.error (.error e), { s with manager := m }) ∧
      m.session.host = s.manager.session.host := by
  obtain ⟨e, p, attaching, same⟩ := Machine.attach_lost
    (m := s.manager.inside s.device.registering) missing serviceable sound lost
  exact ⟨e, _, outcome_register_failed (Machine.backend config)
    (Device.isRegistered_eq_false unbound) attaching, same⟩

end Register

/-! ## Observing -/

/-- The device is registered for the interface `l`, whose name it knows. -/
structure Faces (s : DeviceState Machine Machine.Change) (context : Context)
    (netns name : String) (l : KernelLink) : Prop where
  bound : s.device.context = some context
  named : s.device.devName = some name
  leads : s.manager.session.host.leadsTo? context
    (s.manager.contexts.handle? context) = some netns
  found : s.manager.session.host.kernel.linkAt? netns s.device.ifindex =
    some l
  spelled : Text.octets name = Kernel.visibleName l.name

section Refresh

variable {config : NamespaceConfig} {s : DeviceState Machine Machine.Change}
  {context : Context} {netns name : String} {l : KernelLink}

theorem query_answers (faces : s.Faces context netns name l)
    (serviceable : s.manager.session.host.Serviceable config)
    (identified : s.manager.session.host.kernel.Identifies l) :
    ∃ t,
      outcome (s.device.query (Machine.backend config)) s.manager =
        (.ok (name, .ofKernel l.flags l.mtu), s.manager.withSession t) ∧
      t.host = s.manager.session.host := by
  obtain ⟨span, asking⟩ := Device.outcome_onInterface_bound
    (Machine.backend config) "refresh_link_state"
    (fun _ => do
      let devName ← Machine.resolveName s.device.ifindex
      let state ← Machine.linkState devName
      return (devName, state)) s.manager faces.bound faces.named
  obtain ⟨t, running, untouched⟩ := Machine.run_yields
    (s := s.manager.session.enterSpan span)
    "refresh_link_state" serviceable faces.leads
    (Kernel.yields_query serviceable.willing faces.found identified
      faces.spelled)
  refine ⟨t.leaveSpan, ?_, untouched⟩
  rw [Manager.outcome_within] at asking
  refine asking.trans ?_
  exact congrArg (fun ran : Outcome (String × LinkState) × Session Machine =>
    (ran.1, s.manager.withSession ran.2.leaveSpan)) running

/-- A new value is stored without further ado if there is no callback. -/
theorem outcome_notify_silent (backend : Backend η ε) (s : DeviceState η ε)
    (registered : s.device.isRegistered = true) (observation : Observation)
    (other : observation.kind ≠ .devName)
    (new : s.device.observed observation.kind ≠ some observation)
    (silent : s.device.callback observation.kind = none) :
    outcome (notify backend observation) s =
      (.ok (), storing s observation) := by
  have uncalled :
      (storing s observation).device.callback observation.kind = none := by
    rw [← silent]
    exact congrFun (s.device.store_callback observation) _
  rw [outcome_notify_changed backend s registered other new]
  simp [call, outcome_bind, uncalled]

/-- A refresh of a device without callbacks stores the state of its
interface. -/
theorem refresh_observes (faces : s.Faces context netns name l)
    (serviceable : s.manager.session.host.Serviceable config)
    (identified : s.manager.session.host.kernel.Identifies l)
    (silent : s.device.callback = fun _ => none)
    (unobserved : s.device.up = none ∧ s.device.mtu = none) :
    ∃ m,
      outcome (refresh (Machine.backend config)) s =
        (.ok (), { s with
          manager := m
          device := s.device.observing (.ofKernel l.flags l.mtu) }) ∧
      m.session.host = s.manager.session.host := by
  obtain ⟨t, querying, same⟩ := query_answers faces serviceable identified
  let state := LinkState.ofKernel l.flags l.mtu
  let queried : DeviceState Machine Machine.Change :=
    { s with manager := s.manager.withSession t }
  let halfway := storing queried (.upDown state.up)
  have registered : s.device.isRegistered = true :=
    Device.isRegistered_eq_true faces.bound
  have asked : outcome (onManager (s.device.query (Machine.backend config)))
      s = (.ok (name, state), queried) := by
    rw [outcome_onManager, querying]
  have known : outcome (notify (Machine.backend config) (.devName name))
      queried = (.ok (), queried) :=
    outcome_notify_known _ queried registered
      (by simp [queried, Device.observed, faces.named, Observation.kind])
  have upDown : outcome (notify (Machine.backend config)
      (.upDown state.up)) queried = (.ok (), halfway) :=
    outcome_notify_silent _ queried registered (.upDown state.up)
      (by simp [Observation.kind])
      (by simp [queried, Device.observed, unobserved, Observation.kind])
      (congrFun silent _)
  have mtu : outcome (notify (Machine.backend config) (.mtu state.mtu))
      halfway = (.ok (), storing halfway (.mtu state.mtu)) :=
    outcome_notify_silent _ halfway registered (.mtu state.mtu)
      (by simp [Observation.kind])
      (by simp [halfway, storing, queried, Device.store, Device.observed,
        unobserved, Observation.kind])
      ((congrFun (s.device.store_callback (.upDown state.up)) .mtu).trans
        (congrFun silent .mtu))
  refine ⟨(storing halfway (.mtu state.mtu)).manager, ?_, same⟩
  rw [outcome_refresh, outcome_bind, asked]
  simp only [List.forM, outcome_bind, known, upDown, mtu]
  rfl

end Refresh

/-- A device can always be freed, and that does not concern the host. -/
theorem free_returns {backend : Backend η ε} {s : DeviceState η ε}
    {rest : List (Device ε)}
    (sound : s.manager.Sound backend (s.device :: rest)) :
    ∃ t, outcome free s = (.ok (), t) ∧
      t.manager.session.host = s.manager.session.host := by
  rcases hcontext : s.device.context with _ | context
  · refine ⟨{ s with manager := s.manager.forgetting s.device }, ?_, rfl⟩
    simp [free, outcome_bind, Device.isRegistered_eq_false hcontext,
      Manager.forgetting, Manager.withSession]
  · obtain ⟨-, lease, found, same, used⟩ :=
      sound.leased.lease List.mem_cons_self hcontext
    have releasing := Pooled.outcome_release (p := s.manager.toPooled) found
      (congrArg Context.id same) used
    refine ⟨_, by
      simp [free, unregister, outcome_bind, Device.isRegistered_eq_true,
        hcontext, Manager.release, releasing, Manager.withPooled,
        Manager.withSession]
      rfl, ?_⟩
    exact Pooled.host_released s.manager.toPooled context lease

end DeviceState

end InterfaceManager

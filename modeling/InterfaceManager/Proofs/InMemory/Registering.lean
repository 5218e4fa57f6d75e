import InterfaceManager.Proofs.InMemory.Upkeep

/-!
# What a registration in memory comes to

While the thread is in the default namespace, everything entered can be left
and no call is bound to fail once, the host alone decides how the registration
of a device ends.  It does not matter whether the context of the namespace is
in the pool already or has to be created.
-/

namespace InterfaceManager

open InterfaceManager.Action

/-- What work leaves behind on a host: attempts to enter and to leave, and
calls on interfaces. -/
structure Toll where
  enters : Nat
  exits : Nat
  calls : List LinkCall
  deriving DecidableEq, Repr

/-- Nothing is left behind. -/
def Toll.free : Toll := ⟨0, 0, []⟩

namespace MemoryHost

/-- The thread is in the default namespace, everything entered can be left,
and no call is bound to fail once. -/
structure Calm (h : MemoryHost) : Prop where
  outside : h.namespaces.stack = []
  returns : h.namespaces.failingExit = []
  idle : h.pending = .none

/-- The host after work that has cost a toll, and some handles opened. -/
def charged (h : MemoryHost) (toll : Toll) (opens : Nat) : MemoryHost where
  namespaces := { h.namespaces with
    opens := h.namespaces.opens + opens
    enters := h.namespaces.enters + toll.enters
    exits := h.namespaces.exits + toll.exits }
  pending := h.pending
  links := { h.links with calls := h.links.calls ++ toll.calls }
  probe := h.probe

/-- The name of the interface at a key, or the error without one. -/
def nameAt (h : MemoryHost) (key : LinkKey) : Except Error String :=
  match h.links.link? key with
  | some link => .ok link.name
  | none => .error (.noSuchDevice key.ifindex)

/-- How a calm host resolves the name of an interface for a device, and what
that costs. -/
def resolving (h : MemoryHost) (b : Binding) : Except Error String × Toll :=
  let place := h.callsFor b.netns
  let found := h.nameAt ⟨place, b.ifindex⟩
  let calls := [⟨place, .resolveName b.ifindex⟩]
  if b.netns = "" then (found, ⟨0, 0, calls⟩)
  else if b.netns ∉ h.namespaces.known then
    (.error (.contextAcquisition b.netns
      (.namespaceOpen b.netns "No such file or directory")), .free)
  else if b.netns ∈ h.namespaces.failingEnter then
    (.error (.namespaceSwitch b.netns "Operation not permitted"), ⟨1, 0, []⟩)
  else (found, ⟨1, 1, calls⟩)

variable {h : MemoryHost} {s : Session MemoryHost}

section Resolving

variable {b : Binding}

theorem resolving_default (default : b.netns = "") :
    h.resolving b = (h.nameAt ⟨h.callsFor b.netns, b.ifindex⟩,
      ⟨0, 0, [⟨h.callsFor b.netns, .resolveName b.ifindex⟩]⟩) :=
  if_pos default

theorem resolving_unknown (named : b.netns ≠ "")
    (unknown : b.netns ∉ h.namespaces.known) :
    h.resolving b = (.error (.contextAcquisition b.netns
      (.namespaceOpen b.netns "No such file or directory")), .free) := by
  rw [resolving, if_neg named, if_pos unknown]

theorem resolving_refused (named : b.netns ≠ "")
    (known : b.netns ∈ h.namespaces.known)
    (failing : b.netns ∈ h.namespaces.failingEnter) :
    h.resolving b =
      (.error (.namespaceSwitch b.netns "Operation not permitted"),
        ⟨1, 0, []⟩) := by
  rw [resolving, if_neg named, if_neg (not_not.mpr known), if_pos failing]

theorem resolving_entered (named : b.netns ≠ "")
    (known : b.netns ∈ h.namespaces.known)
    (allowed : b.netns ∉ h.namespaces.failingEnter) :
    h.resolving b = (h.nameAt ⟨h.callsFor b.netns, b.ifindex⟩,
      ⟨1, 1, [⟨h.callsFor b.netns, .resolveName b.ifindex⟩]⟩) := by
  rw [resolving, if_neg named, if_neg (not_not.mpr known), if_neg allowed]

end Resolving

@[simp] theorem charged_free (h : MemoryHost) : h.charged .free 0 = h := by
  simp [charged, Toll.free]

theorem charged_charged (h : MemoryHost) (toll : Toll) (opens more : Nat) :
    (h.charged .free opens).charged toll more =
      h.charged toll (opens + more) := by
  simp [charged, Toll.free, Nat.add_assoc]

/-- What has been paid before does not decide. -/
theorem resolving_charged (h : MemoryHost) (toll : Toll) (opens : Nat)
    (b : Binding) : (h.charged toll opens).resolving b = h.resolving b := rfl

theorem Calm.charged (calm : h.Calm) (toll : Toll) (opens : Nat) :
    (h.charged toll opens).Calm :=
  ⟨calm.outside, calm.returns, calm.idle⟩

end MemoryHost

/-! ## Single calls -/

namespace MemoryNamespaces

variable {s : Session MemoryNamespaces}

theorem outcome_openHandle_known {name : String}
    (known : name ∈ s.host.known) :
    ∃ t, outcome (openHandle name) s = (.ok (.detached name), t) ∧
      t.host = { s.host with opens := s.host.opens + 1 } := by
  simp [openHandle, outcome_bind, outcome_map, Except.map, known]

theorem outcome_openHandle_unknown {name : String}
    (unknown : name ∉ s.host.known) :
    ∃ t, outcome (openHandle name) s =
        (.error (.error (.namespaceOpen name "No such file or directory")),
          t) ∧
      t.host = s.host := by
  simp [openHandle, outcome_bind, unknown]

theorem outcome_enter_failing {handle : Handle}
    (failing : handle.name ∈ s.host.failingEnter) :
    ∃ t, outcome (enter handle) s =
        (.error (.error
          (.namespaceSwitch handle.name "Operation not permitted")), t) ∧
      t.host = { s.host with enters := s.host.enters + 1 } := by
  simp [enter, outcome_bind, failing]

theorem outcome_enter_allowed {handle : Handle}
    (allowed : handle.name ∉ s.host.failingEnter) :
    ∃ t, outcome (enter handle) s = (.ok (.detached handle.name), t) ∧
      t.host = { s.host with
        enters := s.host.enters + 1
        stack := handle.name :: s.host.stack } := by
  simp [enter, outcome_bind, outcome_map, Except.map, allowed]

theorem outcome_exit (returns : s.host.failingExit = [])
    (state : SwitchState) :
    ∃ t, outcome (exit state) s = (.ok (), t) ∧
      t.host = { s.host with
        exits := s.host.exits + 1, stack := s.host.stack.drop 1 } := by
  simp [exit, outcome_bind, returns]

end MemoryNamespaces

namespace MemoryHost

variable {h : MemoryHost} {s : Session MemoryHost}

theorem outcome_unlessPending (idle : s.host.pending = .none)
    (call : ProviderCall) (act : Action (Session MemoryNamespaces) α) :
    outcome (unlessPending call act) s =
      let ran := outcome act ⟨s.host.namespaces, s.journal⟩
      (ran.1,
        ⟨{ s.host with namespaces := ran.2.host }, ran.2.journal⟩) := by
  have unbound : s.host.pending.get call = none := by
    rw [idle]
    cases call <;> rfl
  simp [unlessPending, outcome_bind, unbound, onNamespaces]

/-- The host with the thread inside one more namespace. -/
def entered (h : MemoryHost) (name : String) : MemoryHost :=
  { h with namespaces := { h.namespaces with
      enters := h.namespaces.enters + 1
      stack := name :: h.namespaces.stack } }

/-- The host with the thread outside its innermost namespace. -/
def left (h : MemoryHost) : MemoryHost :=
  { h with namespaces := { h.namespaces with
      exits := h.namespaces.exits + 1
      stack := h.namespaces.stack.drop 1 } }

def called (h : MemoryHost) (request : LinkRequest) : MemoryHost :=
  { h with links := h.links.record h.callNamespace request }

theorem openHandle_known {name : String} (idle : s.host.pending = .none)
    (known : name ∈ s.host.namespaces.known) :
    ∃ t, outcome (backend.provider.openHandle name) s =
        (.ok (.detached name), t) ∧ t.host = s.host.charged .free 1 := by
  have opening := outcome_unlessPending idle .opening
    (MemoryNamespaces.openHandle name)
  obtain ⟨n, opened, host⟩ := MemoryNamespaces.outcome_openHandle_known
    (s := ⟨s.host.namespaces, s.journal⟩) known
  rw [opened] at opening
  refine ⟨_, opening, ?_⟩
  simp [charged, Toll.free, host]

theorem openHandle_unknown {name : String} (idle : s.host.pending = .none)
    (unknown : name ∉ s.host.namespaces.known) :
    ∃ t, outcome (backend.provider.openHandle name) s =
        (.error (.error (.namespaceOpen name "No such file or directory")),
          t) ∧ t.host = s.host := by
  have opening := outcome_unlessPending idle .opening
    (MemoryNamespaces.openHandle name)
  obtain ⟨n, missing, host⟩ := MemoryNamespaces.outcome_openHandle_unknown
    (s := ⟨s.host.namespaces, s.journal⟩) unknown
  rw [missing] at opening
  exact ⟨_, opening, by rw [host]⟩

theorem enter_failing (handle : Handle) (idle : s.host.pending = .none)
    (failing : handle.name ∈ s.host.namespaces.failingEnter) :
    ∃ t, outcome (backend.provider.enter handle) s =
        (.error (.error
          (.namespaceSwitch handle.name "Operation not permitted")), t) ∧
      t.host = s.host.charged ⟨1, 0, []⟩ 0 := by
  have entering := outcome_unlessPending idle .entering
    (MemoryNamespaces.enter handle)
  obtain ⟨n, refused, host⟩ := MemoryNamespaces.outcome_enter_failing
    (s := ⟨s.host.namespaces, s.journal⟩) failing
  rw [refused] at entering
  refine ⟨_, entering, ?_⟩
  simp [charged, host]

theorem enter_allowed (handle : Handle) (idle : s.host.pending = .none)
    (allowed : handle.name ∉ s.host.namespaces.failingEnter) :
    ∃ t, outcome (backend.provider.enter handle) s =
        (.ok (.detached handle.name), t) ∧
      t.host = s.host.entered handle.name := by
  have entering := outcome_unlessPending idle .entering
    (MemoryNamespaces.enter handle)
  obtain ⟨n, moved, host⟩ := MemoryNamespaces.outcome_enter_allowed
    (s := ⟨s.host.namespaces, s.journal⟩) allowed
  rw [moved] at entering
  refine ⟨_, entering, ?_⟩
  rw [entered, ← host]

theorem exit_returns (state : SwitchState) (idle : s.host.pending = .none)
    (returns : s.host.namespaces.failingExit = []) :
    ∃ t, outcome (backend.provider.exit state) s = (.ok (), t) ∧
      t.host = s.host.left := by
  have leaving := outcome_unlessPending idle .exiting
    (MemoryNamespaces.exit state)
  obtain ⟨n, moved, host⟩ := MemoryNamespaces.outcome_exit
    (s := ⟨s.host.namespaces, s.journal⟩) returns state
  rw [moved] at leaving
  refine ⟨_, leaving, ?_⟩
  rw [left, ← host]

/-- A name is resolved where the thread is. -/
theorem outcome_resolveName (ifindex : IfIndex) :
    ∃ t, outcome (backend.links.resolveName ifindex) s =
        ((s.host.nameAt ⟨s.host.callNamespace, ifindex⟩).mapError
          Fault.error, t) ∧
      t.host = s.host.called (.resolveName ifindex) := by
  change ∃ t, outcome (onLinks fun netns =>
    MemoryLinks.resolveName netns ifindex) s = _ ∧ _
  have same : ∀ netns, (s.host.links.record netns
      (.resolveName ifindex)).link? ⟨netns, ifindex⟩ =
        s.host.links.link? ⟨netns, ifindex⟩ := fun _ => rfl
  simp only [onLinks, outcome_bind, outcome_get, outcome_focus,
    MemoryLinks.resolveName, outcome_modify, same, nameAt]
  rcases s.host.links.link? ⟨s.host.callNamespace, ifindex⟩ with _ | link
  · exact ⟨_, rfl, rfl⟩
  · exact ⟨_, rfl, rfl⟩

/-- What a calm host is charged for a name resolved inside a namespace. -/
theorem left_called_entered {netns : String} (outside : h.namespaces.stack = [])
    (named : netns ≠ "") (request : LinkRequest) :
    ((h.entered netns).called request).left =
      h.charged ⟨1, 1, [⟨h.callsFor netns, request⟩]⟩ 0 := by
  rw [called, callNamespace_of_entered (h := h) named rfl]
  simp [left, entered, charged, MemoryLinks.record, outside]

/-- A calm host resolves a name inside an open context as it decides. -/
theorem runInNamespace_resolving {context : Context} {handle : Option Handle}
    {b : Binding} (called : context.name = b.netns)
    (faithful : ∀ opened, handle = some opened → opened.name = b.netns)
    (isOpen : context.isDefault = true ∨ handle.isSome = true)
    (known : b.netns = "" ∨ b.netns ∈ s.host.namespaces.known)
    (calm : s.host.Calm) :
    ∃ t, outcome (runInNamespace backend.provider context handle "register"
          (backend.links.resolveName b.ifindex)) s =
        ((s.host.resolving b).1.mapError Fault.error, t) ∧
      t.host = s.host.charged (s.host.resolving b).2 0 := by
  rcases named : context.isDefault with _ | _
  · have different : b.netns ≠ "" := by
      rw [← called]
      simpa [Context.isDefault] using named
    obtain ⟨handle, rfl⟩ : ∃ opened, handle = some opened := by
      rw [named] at isOpen
      exact Option.isSome_iff_exists.mp (isOpen.resolve_left (by simp))
    have same : handle.name = b.netns := faithful handle rfl
    have present : b.netns ∈ s.host.namespaces.known :=
      known.resolve_left different
    let noted := s.noting (.switching context.name "register")
    by_cases failing : b.netns ∈ s.host.namespaces.failingEnter
    · obtain ⟨t, entering, host⟩ := enter_failing (s := noted)
        handle calm.idle (same ▸ failing)
      rw [resolving_refused different present failing,
        outcome_runInNamespace_refused _ _ _ _ handle named entering, same]
      exact ⟨_, rfl, host⟩
    · obtain ⟨t, entering, host⟩ := enter_allowed (s := noted)
        handle calm.idle (same ▸ failing)
      obtain ⟨u, resolved, resolved_host⟩ :=
        outcome_resolveName (s := t) b.ifindex
      rw [host, same] at resolved resolved_host
      obtain ⟨v, leaving, left_host⟩ := exit_returns (s := u)
        (.detached handle.name) (by rw [resolved_host]; exact calm.idle)
        (by rw [resolved_host]; exact calm.returns)
      rw [resolving_entered different present failing,
        outcome_runInNamespace_entered _ _ _ _ handle named entering,
        resolved, Scope.outcome_restore, leaving]
      refine ⟨_, Prod.ext ?_ rfl, ?_⟩
      · rw [callNamespace_of_entered (h := s.host) different rfl]
        exact Scope.ending_ok _
      · rw [Session.host_noting, left_host, resolved_host]
        exact left_called_entered calm.outside different _
  · have default : b.netns = "" := by
      rw [← called]
      simpa [Context.isDefault] using named
    obtain ⟨t, resolved, host⟩ := outcome_resolveName (s := s) b.ifindex
    rw [callNamespace_eq_callsFor] at resolved
    rw [MemoryHost.called, callNamespace_eq_callsFor] at host
    rw [outcome_runInNamespace_default _ _ _ _ handle named, resolved,
      resolving_default default, default]
    exact ⟨t, rfl, host⟩

/-! ## Taking the context of a namespace -/

/-- A calm host takes the context of a namespace from the pool, or opens it if
the name is known. -/
theorem acquire_calm {m : Manager MemoryHost} (tracks : m.Tracks)
    (calm : m.session.host.Calm) (name : String) :
    (∃ context q opens,
      outcome (Pooled.acquire backend.provider name) m.toPooled =
        (.ok context, q) ∧
      Pool.Acquired name m.contexts m.pool context q.contexts q.pool ∧
      q.contexts.LeadsTo context name ∧
      q.session.host = m.session.host.charged .free opens ∧
      (name = "" ∨ name ∈ m.session.host.namespaces.known)) ∨
    ∃ q,
      outcome (Pooled.acquire backend.provider name) m.toPooled =
        (.error (.error (.namespaceOpen name "No such file or directory")),
          q) ∧
      q.session.host = m.session.host ∧
      name ≠ "" ∧ name ∉ m.session.host.namespaces.known := by
  let h := m.session.host
  have opens : ∀ other, (backend.provider.openHandle other).Keeps
      fun s => ∃ opens, s.host = h.charged .free opens := by
    rintro other s ⟨opens, paid⟩
    have idle : s.host.pending = .none := by
      rw [paid]
      exact calm.idle
    by_cases known : other ∈ s.host.namespaces.known
    · obtain ⟨t, opening, opened⟩ := openHandle_known idle known
      rw [opening]
      refine ⟨opens + 1, ?_⟩
      rw [opened, paid, charged_charged]
    · obtain ⟨t, opening, unopened⟩ := openHandle_unknown idle known
      rw [opening]
      exact ⟨opens, unopened.trans paid⟩
  have host := Pooled.acquire_keeps (fun _ _ paid => paid) opens name
    m.toPooled ⟨0, (charged_free _).symm⟩
  have tracks' := Manager.Tracks.acquire_keeps name m tracks
  rw [Manager.outcome_onPool] at tracks'
  rcases Pooled.acquire_cases backend.provider name m.toPooled
    with ⟨context, q, acquiring, acquired⟩ |
      ⟨f, t, -, unnamed, opening, acquiring⟩
  · rw [acquiring] at tracks' host
    obtain ⟨opens, paid⟩ := host
    have tracked := acquired.get?_self
    refine .inl ⟨context, q, opens, acquiring, acquired,
      tracks'.faithful.leadsTo tracks'.sound tracked, paid, ?_⟩
    obtain ⟨lease, found, -⟩ := Pool.exists_lease_of_get? tracked
    have known := tracks'.known name
      (Option.ne_none_iff_exists'.mpr ⟨lease, found⟩)
    change name = "" ∨ name ∈ q.session.host.namespaces.known at known
    rw [paid] at known
    exact known
  · right
    let noted := m.session.noting (.contextPrepared name)
    by_cases present : name ∈ m.session.host.namespaces.known
    · obtain ⟨u, opened, -⟩ := openHandle_known (s := noted) calm.idle present
      rw [opening] at opened
      cases opened
    · obtain ⟨u, missing, unopened⟩ :=
        openHandle_unknown (s := noted) calm.idle present
      rw [opening] at missing
      cases missing
      exact ⟨_, acquiring, unopened, unnamed, present⟩

/-- A calm host decides how a device is attached. -/
theorem attach_calm {m : Manager MemoryHost} (tracks : m.Tracks)
    (calm : m.session.host.Calm) (d : Device Adjustment) :
    let decided := m.session.host.resolving d.selected
    ∃ result m', outcome (Manager.attach backend d) m = (result, m') ∧
      m'.registry = m.registry ∧
      (∃ opens, m'.session.host = m.session.host.charged decided.2 opens) ∧
      ((∃ context devName, decided.1 = .ok devName ∧
          result = .ok (context, devName) ∧ context.name = d.netnsKey) ∨
        ∃ e, decided.1 = .error e ∧ result = .error (.error e)) := by
  intro decided
  rcases acquire_calm tracks calm d.netnsKey
    with ⟨context, p, opens, acquiring, acquired, leads, paid, known⟩ |
      ⟨p, acquiring, host, named, unknown⟩
  · have isOpen := acquired.isOpen tracks.sound
    rw [Contexts.isOpen, Bool.or_eq_true] at isOpen
    obtain ⟨t, resolving, charged⟩ := runInNamespace_resolving
      (b := d.selected) (s := p.session) leads.1 leads.2 isOpen
      (by rw [paid]; exact known) (by rw [paid]; exact calm.charged _ _)
    rw [paid, resolving_charged] at resolving
    rw [paid, resolving_charged, charged_charged, Nat.add_zero] at charged
    have running : outcome (runInNamespace backend.provider context
        (p.contexts.handle? context) "register"
        (backend.links.resolveName d.ifindex)) p.session =
          (decided.1.mapError Fault.error, t) := resolving
    rcases result : decided.1 with e | devName <;> rw [result] at running
    · let failed : Pooled MemoryHost :=
        { p with session := t.noting (.registrationFailed e) }
      obtain ⟨lease, found, same, used, -⟩ :=
        Pooled.released_of_acquired (p := failed) tracks.sound acquired
      have releasing :=
        Pooled.outcome_release found (congrArg Context.id same) used
      refine ⟨_, _,
        Manager.outcome_attach_failed backend acquiring running releasing,
        rfl, ⟨opens, ?_⟩, .inr ⟨e, rfl, rfl⟩⟩
      exact (Pooled.host_released failed context lease).trans charged
    · exact ⟨_, _, Manager.outcome_attach_resolved backend acquiring running,
        rfl, ⟨opens, charged⟩, .inl ⟨context, devName, rfl, rfl, leads.1⟩⟩
  · have decision : decided = _ := resolving_unknown named unknown
    refine ⟨_, _, Manager.outcome_attach_unopened backend acquiring, rfl,
      ⟨0, ?_⟩, .inr ⟨_, congrArg Prod.fst decision, rfl⟩⟩
    rw [decision, charged_free]
    exact host

end MemoryHost

/-! ## Registering and unregistering -/

/-- How an operation of a device ends, what the device is like after it, and
what it costs the host. -/
structure Settlement (ε : Type) where
  result : Outcome Unit
  device : Device ε
  toll : Toll

namespace Device

/-- A device without the identity of its context. -/
def plain (d : Device ε) : Device ε :=
  { d with context := d.context.map fun context => ⟨0, context.name⟩ }

/-- What a calm host decides about a device that is to be registered or
unregistered. -/
def settlement (h : MemoryHost) (d : Device ε) :
    DeviceOperation ε → Settlement ε
  | .register =>
    if d.isRegistered then
      ⟨.error (.error (.alreadyRegistered d.name)), d, .free⟩
    else match h.resolving d.selected with
      | (.ok devName, toll) =>
        ⟨.ok (), d.attached ⟨0, d.netnsKey⟩ devName, toll⟩
      | (.error e, toll) => ⟨.error (.error e), d, toll⟩
  | .unregister =>
    if d.isRegistered then ⟨.ok (), d.detached, .free⟩
    else ⟨.error (.error (.alreadyUnregistered d.name)), d, .free⟩
  | _ => ⟨.ok (), d, .free⟩

end Device

namespace DeviceState

variable {s : DeviceState MemoryHost MemoryHost.Adjustment}
  {rest : List (Device MemoryHost.Adjustment)}

/-- It has gone as it was decided. -/
structure Settles (s : DeviceState MemoryHost MemoryHost.Adjustment)
    (decided : Settlement MemoryHost.Adjustment) (result : Outcome Unit)
    (t : DeviceState MemoryHost MemoryHost.Adjustment) : Prop where
  result : result = decided.result
  device : t.device.plain = decided.device.plain
  host : ∃ opens, t.manager.session.host =
    s.manager.session.host.charged decided.toll opens
  next : t.manager.registry.next = s.manager.registry.next
  reports : t.reports = s.reports

theorem Settles.refused (s : DeviceState MemoryHost MemoryHost.Adjustment)
    (e : Error) :
    Settles s ⟨.error (.error e), s.device, .free⟩ (.error (.error e)) s where
  result := rfl
  device := rfl
  host := ⟨0, (MemoryHost.charged_free _).symm⟩
  next := rfl
  reports := rfl

theorem register_settles (tracks : s.manager.Tracks)
    (calm : s.manager.session.host.Calm) :
    let ran := outcome (register MemoryHost.backend) s
    Settles s (s.device.settlement s.manager.session.host .register)
      ran.1 ran.2 := by
  intro ran
  rcases bound : s.device.context with _ | context
  · have unregistered := Device.isRegistered_eq_false bound
    obtain ⟨result, m, attaching, registry, ⟨opens, paid⟩, ended⟩ :=
      MemoryHost.attach_calm (m := s.manager.inside s.device.registering)
        (tracks.withSession fun _ known => known) calm s.device
    have same : (s.manager.inside s.device.registering).session.host =
      s.manager.session.host := rfl
    have settled : s.device.settlement s.manager.session.host .register = _ :=
      if_neg (by rw [unregistered]; exact Bool.false_ne_true)
    rcases decided : s.manager.session.host.resolving s.device.selected
      with ⟨found, toll⟩
    rw [same, decided] at ended
    rw [same, decided] at paid
    rw [decided] at settled
    have next : m.registry.next = s.manager.registry.next :=
      congrArg Registry.next registry
    rcases ended with ⟨context, devName, rfl, rfl, named⟩ | ⟨e, rfl, rfl⟩
    · have ran_eq : ran = _ :=
        outcome_register_attached _ unregistered attaching
      rw [ran_eq, settled]
      constructor
      · rfl
      · simp [Device.plain, Device.attached, named]
      · refine ⟨opens, ?_⟩
        exact (m.host_bound s.device devName).trans paid
      · exact next
      · rfl
    · have ran_eq : ran = _ := outcome_register_failed _ unregistered attaching
      rw [ran_eq, settled]
      constructor
      · rfl
      · rfl
      · exact ⟨opens, paid⟩
      · exact next
      · rfl
  · have registered := Device.isRegistered_eq_true bound
    have refused : ran = _ := outcome_register_registered _ registered
    have settled : s.device.settlement s.manager.session.host .register = _ :=
      if_pos registered
    rw [refused, settled]
    exact .refused s _

theorem unregister_settles
    (sound : s.manager.Sound MemoryHost.backend (s.device :: rest)) :
    let ran := outcome unregister s
    Settles s (s.device.settlement s.manager.session.host .unregister)
      ran.1 ran.2 := by
  intro ran
  rcases bound : s.device.context with _ | context
  · have unregistered := Device.isRegistered_eq_false bound
    have refused : ran = _ := outcome_unregister_unbound bound
    have settled : s.device.settlement s.manager.session.host .unregister =
      _ := if_neg (by rw [unregistered]; exact Bool.false_ne_true)
    rw [refused, settled]
    exact .refused s _
  · have registered := Device.isRegistered_eq_true bound
    obtain ⟨m, unregistering, -, registry, -⟩ :=
      unregister_succeeds sound bound
    have host := unregister_keeps
      (.of_host (· = s.manager.session.host)) (.of_manager _) s rfl
    have settled : s.device.settlement s.manager.session.host .unregister =
      _ := if_pos registered
    have ran_eq : ran = _ := unregistering
    rw [unregistering] at host
    rw [ran_eq, settled]
    constructor
    · rfl
    · rfl
    · exact ⟨0, host.trans (MemoryHost.charged_free _).symm⟩
    · rw [registry]
      rfl
    · rfl

end DeviceState
end InterfaceManager

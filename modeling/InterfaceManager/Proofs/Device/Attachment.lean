import InterfaceManager.Proofs.Device.Agreement

/-!
# Registrations are atomic

What a registration does, given what the backend answers.  The record of one
registration shows which calls were made and in which order, and from their
answers follows how it ends.  Whatever the cause, a registration that fails
leaves the device, the registry and the pool exactly as they were.
-/

namespace InterfaceManager

open InterfaceManager.Action

/-- How the handle of a namespace is had: from the pool, or by opening it,
which is then the first call. -/
inductive Opening (cs : Contexts) (p : Pool) (netns : String) :
    List BackendEvent → Handle → Prop
  | pooled {context : Context} {handle : Handle}
      (tracked : p.get? netns = some context)
      (opened : cs.handle? context = some handle) :
      Opening cs p netns [] handle
  | opened (untracked : p.get? netns = none) (handle : Handle) :
      Opening cs p netns [.provider (.opened netns (.ok handle))] handle

/-- The calls by which the name of an interface is resolved in the namespace
of a handle, and what they come to. -/
inductive Resolution (netns : String) (handle : Handle) (ifindex : IfIndex) :
    List BackendEvent → Except Error String → Prop
  /-- A failed switch in is the answer as it is. -/
  | refused (other message : String) :
      Resolution netns handle ifindex
        [.provider (.entered handle
          (.error (.error (.namespaceSwitch other message))))]
        (.error (.namespaceSwitch other message))
  /-- Any other error of the switch in becomes a failed switch. -/
  | refusedOtherwise {e : Error}
      (distinct : ∀ other message, e ≠ .namespaceSwitch other message) :
      Resolution netns handle ifindex
        [.provider (.entered handle (.error (.error e)))]
        (.error (.namespaceSwitch netns e.message))
  | stranded (state : SwitchState) (devName : String) (e : Error) :
      Resolution netns handle ifindex
        [.provider (.entered handle (.ok state)),
          .link (.resolved ifindex (.ok devName)),
          .provider (.left state (.error (.error e)))]
        (.error (.namespaceRestore state.target e.reason none))
  /-- A failed switch back carries the failed resolution. -/
  | strandedUnresolved (state : SwitchState) (failure e : Error) :
      Resolution netns handle ifindex
        [.provider (.entered handle (.ok state)),
          .link (.resolved ifindex (.error (.error failure))),
          .provider (.left state (.error (.error e)))]
        (.error (.namespaceRestore state.target e.reason (some failure)))
  | unresolved (state : SwitchState) (failure : Error) :
      Resolution netns handle ifindex
        [.provider (.entered handle (.ok state)),
          .link (.resolved ifindex (.error (.error failure))),
          .provider (.left state (.ok ()))]
        (.error failure)
  | resolved (state : SwitchState) (devName : String) :
      Resolution netns handle ifindex
        [.provider (.entered handle (.ok state)),
          .link (.resolved ifindex (.ok devName)),
          .provider (.left state (.ok ()))]
        (.ok devName)

/-- The calls of a registration of `d` while the pool is `p`, and what they
come to: an error, or the name of the interface. -/
inductive RegistrationProtocol (cs : Contexts) (p : Pool) (d : Device ε) :
    List BackendEvent → Except Error String → Prop
  | alreadyRegistered (registered : d.isRegistered = true) :
      RegistrationProtocol cs p d [] (.error (.alreadyRegistered d.name))
  /-- The error of a handle that cannot be opened is the source. -/
  | unopened (unregistered : d.isRegistered = false)
      (named : d.netnsKey ≠ "") (untracked : p.get? d.netnsKey = none)
      (e : Error) :
      RegistrationProtocol cs p d
        [.provider (.opened d.netnsKey (.error (.error e)))]
        (.error (.contextAcquisition d.netnsKey e))
  | switched (unregistered : d.isRegistered = false)
      (named : d.netnsKey ≠ "") {opening resolution : List BackendEvent}
      {handle : Handle} {answer : Except Error String}
      (opened : Opening cs p d.netnsKey opening handle)
      (decided : Resolution d.netnsKey handle d.ifindex resolution answer) :
      RegistrationProtocol cs p d (opening ++ resolution) answer
  /-- The default namespace is neither opened nor entered. -/
  | unswitched (unregistered : d.isRegistered = false)
      (default : d.netnsKey = "") (answer : Except Error String) :
      RegistrationProtocol cs p d
        [.link (.resolved d.ifindex (answer.mapError Fault.error))] answer

/-- What the calls come to is determined by their answers. -/
theorem Resolution.unique {netns : String} {handle : Handle}
    {ifindex : IfIndex} {events : List BackendEvent}
    {answer other : Except Error String}
    (first : Resolution netns handle ifindex events answer)
    (second : Resolution netns handle ifindex events other) :
    answer = other := by
  cases first with
  | refused netns message =>
    cases second with
    | refused => rfl
    | refusedOtherwise distinct => exact absurd rfl (distinct netns message)
  | refusedOtherwise distinct =>
    cases second with
    | refused netns message => exact absurd rfl (distinct netns message)
    | refusedOtherwise => rfl
  | _ =>
    cases second
    rfl

/-- The calls of a resolution start with the switch in. -/
theorem Resolution.head {netns : String} {handle : Handle}
    {ifindex : IfIndex} {events : List BackendEvent}
    {answer : Except Error String}
    (resolution : Resolution netns handle ifindex events answer) :
    ∃ result rest, events = .provider (.entered handle result) :: rest := by
  cases resolution
  all_goals exact ⟨_, _, rfl⟩

/-- A record has one way of opening the namespace. -/
theorem Opening.unique {cs : Contexts} {p : Pool} {netns : String}
    {opening other resolution resolution' : List BackendEvent}
    {handle handle' : Handle}
    (first : Opening cs p netns opening handle)
    (second : Opening cs p netns other handle')
    (same : opening ++ resolution = other ++ resolution') :
    handle = handle' ∧ resolution = resolution' := by
  cases first with
  | pooled tracked opened =>
    cases second with
    | pooled tracked' opened' =>
      rw [tracked] at tracked'
      cases tracked'
      rw [opened] at opened'
      cases opened'
      exact ⟨rfl, same⟩
    | opened untracked =>
      rw [tracked] at untracked
      cases untracked
  | opened untracked =>
    cases second with
    | pooled tracked =>
      rw [tracked] at untracked
      cases untracked
    | opened =>
      simp only [List.cons_append, List.nil_append, List.cons.injEq,
        BackendEvent.provider.injEq, ProviderEvent.opened.injEq,
        Except.ok.injEq, true_and] at same
      exact same

/-- A handle that was had cannot have failed to open. -/
theorem Opening.ne_unopened {cs : Contexts} {p : Pool} {netns : String}
    {opening resolution : List BackendEvent} {handle : Handle} {e : Error}
    {answer : Except Error String} {ifindex : IfIndex}
    (opened : Opening cs p netns opening handle)
    (decided : Resolution netns handle ifindex resolution answer) :
    opening ++ resolution ≠
      [.provider (.opened netns (.error (.error e)))] := by
  obtain ⟨result, rest, rfl⟩ := decided.head
  cases opened with
  | pooled => simp
  | opened => simp

/-- An answer is known from its outcome. -/
theorem mapError_error_injective :
    Function.Injective
      (Except.mapError Fault.error : Except Error α → Outcome α) := by
  intro first second same
  rcases first with e | a <;> rcases second with e' | a' <;> cases same <;> rfl

theorem RegistrationProtocol.unique {cs : Contexts} {p : Pool} {d : Device ε}
    {events : List BackendEvent} {answer other : Except Error String}
    (first : RegistrationProtocol cs p d events answer)
    (second : RegistrationProtocol cs p d events other) : answer = other := by
  generalize same : events = events' at second
  cases first with
  | alreadyRegistered registered =>
    cases second with
    | alreadyRegistered => rfl
    | _ unregistered => simp [registered] at unregistered
  | unopened unregistered named untracked e =>
    cases second with
    | alreadyRegistered registered => simp [unregistered] at registered
    | unopened =>
      simp only [List.cons.injEq, BackendEvent.provider.injEq,
        ProviderEvent.opened.injEq, Except.error.injEq, Fault.error.injEq,
        true_and, and_true] at same
      rw [same]
    | switched _ _ opened decided =>
      exact absurd same.symm (opened.ne_unopened decided)
    | unswitched _ default => exact absurd default named
  | switched unregistered named opened decided =>
    cases second with
    | alreadyRegistered registered => simp [unregistered] at registered
    | unopened => exact absurd same (opened.ne_unopened decided)
    | switched _ _ opened' decided' =>
      obtain ⟨rfl, rfl⟩ := opened.unique opened' same
      exact decided.unique decided'
    | unswitched _ default => exact absurd default named
  | unswitched unregistered default answer =>
    cases second with
    | alreadyRegistered registered => simp [unregistered] at registered
    | unopened _ named => exact absurd default named
    | switched _ named => exact absurd default named
    | unswitched =>
      simp only [List.cons.injEq, BackendEvent.link.injEq,
        LinkEvent.resolved.injEq, true_and, and_true] at same
      exact mapError_error_injective same

/-! ## Following the protocol -/

/-- What is seen of a scoped resolution, as calls of the backend. -/
def resolutionEvent (ifindex : IfIndex) : ScopeEvent String → BackendEvent
  | .call event => .provider event
  | .ran answer => .link (.resolved ifindex answer)

/-- A scoped resolution that follows the protocol of scoped switches. -/
theorem Resolution.of_switchProtocol {context : Context} {handle : Handle}
    (ifindex : IfIndex) {events : List (ScopeEvent String)}
    {result : Outcome String} (named : context.isDefault = false)
    (protocol : SwitchProtocol context (some handle) events result)
    (answered : ∀ message, result ≠ .error (.panic message)) :
    ∃ answer, result = answer.mapError Fault.error ∧
      Resolution context.name handle ifindex
        (events.map (resolutionEvent ifindex)) answer := by
  cases protocol with
  | unswitched default =>
    rw [named] at default
    cases default
  | closed _ closed => cases closed
  | refused _ opened netns message =>
    cases opened
    exact ⟨.error _, rfl, .refused netns message⟩
  | refusedOtherwise _ opened distinct =>
    cases opened
    exact ⟨.error _, rfl, .refusedOtherwise distinct⟩
  | returned _ opened state =>
    cases opened
    rcases result with (failure | message) | devName
    · exact ⟨.error failure, rfl, .unresolved state failure⟩
    · exact absurd rfl (answered message)
    · exact ⟨.ok devName, rfl, .resolved state devName⟩
  | stranded _ opened state devName e =>
    cases opened
    exact ⟨.error _, rfl, .stranded state devName e⟩
  | strandedAfterError _ opened state failure e =>
    cases opened
    exact ⟨.error _, rfl, .strandedUnresolved state failure e⟩
  | strandedAfterPanic _ _ _ message => exact absurd rfl (answered message)
  | enterPanicked _ _ message => exact absurd rfl (answered message)
  | exitPanicked _ _ _ _ message => exact absurd rfl (answered message)

namespace Pooled

variable (backend : Backend η ε) {p : Pooled η}

/-- An acquisition on record: at most one call, which opens the handle. -/
theorem exists_record_acquire (sound : p.pool.Sound p.contexts)
    (name : String) :
    (∃ context opening q,
      outcome (acquire backend.recorded.provider name) (p.record []) =
        (.ok context, q.record opening) ∧
      outcome (acquire backend.provider name) p = (.ok context, q) ∧
      context.name = name ∧
      Pool.Acquired name p.contexts p.pool context q.contexts q.pool ∧
      (name = "" → opening = []) ∧
      (name ≠ "" → ∃ handle, q.contexts.handle? context = some handle ∧
        Opening p.contexts p.pool name opening handle)) ∨
    ∃ f t, name ≠ "" ∧ p.pool.get? name = none ∧
      outcome (backend.provider.openHandle name)
        (p.session.noting (.contextPrepared name)) = (.error f, t) ∧
      outcome (acquire backend.recorded.provider name) (p.record []) =
        (.error f, ({ p with session := t } : Pooled η).record
          [.provider (.opened name (.error f))]) ∧
      outcome (acquire backend.provider name) p =
        (.error f, { p with session := t }) := by
  rcases Option.eq_none_or_eq_some (p.pool.lease? name)
    with missing | ⟨lease, found⟩
  · have untracked : p.pool.get? name = none := by
      simp [Pool.get?, missing]
    by_cases default : name = ""
    · subst default
      exact Or.inl ⟨_, [], _,
        outcome_acquire_default backend.recorded.provider
          (p := p.record []) missing,
        outcome_acquire_default backend.provider missing, rfl,
        .created missing (Or.inl rfl), fun _ => rfl,
        fun named => absurd rfl named⟩
    · have recorded := backend.provider.outcome_recorded_openHandle
        BackendEvent.provider (p.session.noting (.contextPrepared name)) [] name
      rcases opening : outcome (backend.provider.openHandle name)
        (p.session.noting (.contextPrepared name)) with ⟨f | handle, t⟩
      · rw [opening] at recorded
        exact Or.inr ⟨f, t, default, untracked, rfl,
          outcome_acquire_unopened backend.recorded.provider
            (p := p.record []) missing default recorded,
          outcome_acquire_unopened backend.provider missing default opening⟩
      · rw [opening] at recorded
        exact Or.inl ⟨_, _, _,
          outcome_acquire_opened backend.recorded.provider
            (p := p.record []) missing default recorded,
          outcome_acquire_opened backend.provider missing default opening, rfl,
          .created missing (Or.inr rfl), fun named => absurd named default,
          fun _ => ⟨handle, p.contexts.handle?_create name (some handle),
            .opened untracked handle⟩⟩
  · have tracked : p.pool.get? name = some lease.context := by
      simp [Pool.get?, found]
    have hname : lease.context.name = name := sound.named found
    refine Or.inl ⟨_, [], _,
      outcome_acquire_shared backend.recorded.provider
        (p := p.record []) found,
      outcome_acquire_shared backend.provider found, hname, .shared found,
      fun _ => rfl, fun named => ?_⟩
    have notDefault : lease.context.isDefault = false := by
      simpa [Context.isDefault, hname] using named
    obtain ⟨handle, hhandle⟩ :=
      Contexts.exists_handle (sound.isOpen found) notDefault
    exact ⟨handle, hhandle, .pooled tracked hhandle⟩

theorem released_record (p : Pooled η) (calls : List κ) (context : Context)
    (lease : Lease) :
    (p.record calls).released context lease =
      (p.released context lease).record calls := by
  by_cases last : lease.refcount = 1
  · have handles : (p.record calls).contexts = p.contexts := rfl
    rw [released, released, if_pos last, if_pos last, closing, closing, handles]
    cases (p.contexts.handle? lease.context).isSome <;> rfl
  · rw [released, released, if_neg last, if_neg last]
    rfl

/-- Giving back what has just been acquired makes no calls. -/
theorem exists_record_release (calls : List κ) {name : String} {cs : Contexts}
    {before : Pool} {context : Context} (sound : before.Sound cs)
    (acquired : Pool.Acquired name cs before context p.contexts p.pool) :
    ∃ q, outcome (release context) p = (.ok (), q) ∧
      outcome (release context) (p.record calls) = (.ok (), q.record calls) := by
  obtain ⟨lease, found, held, used, -, -⟩ :=
    released_of_acquired sound acquired
  have pooled := congrArg Context.id held
  refine ⟨p.released context lease, outcome_release found pooled used, ?_⟩
  rw [← released_record]
  exact outcome_release (p := p.record calls) found pooled used

end Pooled

/-- In the default namespace the operation is all there is. -/
theorem SwitchProtocol.eq_ran {context : Context} {handle : Option Handle}
    {events : List (ScopeEvent α)} {result : Outcome α}
    (default : context.isDefault = true)
    (protocol : SwitchProtocol context handle events result) :
    events = [.ran result] := by
  cases protocol with
  | unswitched => rfl
  | _ named => simp [default] at named

/-- A namespace that has been opened if necessary, and the resolution of the
name in it, make a registration. -/
theorem RegistrationProtocol.of_run {cs : Contexts} {p : Pool} {d : Device ε}
    {context : Context} {handle? : Option Handle}
    {opening : List BackendEvent} {events : List (ScopeEvent String)}
    {result : Outcome String} (unregistered : d.isRegistered = false)
    (same : context.name = d.netnsKey)
    (silent : d.netnsKey = "" → opening = [])
    (opened : d.netnsKey ≠ "" → ∃ handle, handle? = some handle ∧
      Opening cs p d.netnsKey opening handle)
    (protocol : SwitchProtocol context handle? events result)
    (answered : ∀ message, result ≠ .error (.panic message)) :
    ∃ answer, result = answer.mapError Fault.error ∧
      RegistrationProtocol cs p d
        (opening ++ events.map (resolutionEvent d.ifindex)) answer := by
  by_cases default : d.netnsKey = ""
  · have isDefault : context.isDefault = true := by
      simp [Context.isDefault, same, default]
    rw [silent default, protocol.eq_ran isDefault]
    rcases result with (e | message) | devName
    · exact ⟨.error e, rfl, .unswitched unregistered default (.error e)⟩
    · exact absurd rfl (answered message)
    · exact ⟨.ok devName, rfl, .unswitched unregistered default (.ok devName)⟩
  · have named : context.isDefault = false := by
      simpa [Context.isDefault, same] using default
    obtain ⟨handle, rfl, had⟩ := opened default
    obtain ⟨answer, hanswer, decided⟩ :=
      Resolution.of_switchProtocol d.ifindex named protocol answered
    rw [same] at decided
    exact ⟨answer, hanswer, .switched unregistered default had decided⟩

namespace Manager

/-- Attaching on record. -/
theorem exists_record_attach {backend : Backend η ε}
    (answers : backend.Answers) {m : Manager η}
    (sound : m.pool.Sound m.contexts) {d : Device ε}
    (unregistered : d.isRegistered = false) :
    ∃ (events : List BackendEvent)
        (answer : Except Error (Context × String)) (m' : Manager η),
      outcome (attach backend.recorded d) (m.record []) =
        (answer.mapError Fault.error, m'.record events) ∧
      outcome (attach backend d) m = (answer.mapError Fault.error, m') ∧
      RegistrationProtocol m.contexts m.pool d events (answer.map Prod.snd) := by
  rcases Pooled.exists_record_acquire backend sound d.netnsKey
    with ⟨context, opening, q, onRecord, acquiring, same, acquired, silent,
        opened⟩ |
      ⟨f, t, named, untracked, opening, onRecord, acquiring⟩
  · obtain ⟨events, result, t, ranOnRecord, running, protocol⟩ :=
      exists_record_runInNamespace (resolutionEvent d.ifindex) backend.provider
        context (q.contexts.handle? context) "register"
        (backend.links.resolveName d.ifindex) q.session opening
    have answered := runInNamespace_answers answers.enter answers.exit context
      (q.contexts.handle? context) "register" (answers.resolveName d.ifindex)
      q.session
    rw [running] at answered
    obtain ⟨answer, rfl, decided⟩ := RegistrationProtocol.of_run
      unregistered same silent opened protocol answered
    let calls := opening ++ events.map (resolutionEvent d.ifindex)
    rcases answer with e | devName
    · obtain ⟨released, releasing, releasingOnRecord⟩ :=
        Pooled.exists_record_release calls sound
          (p := { q with session := t.noting (.registrationFailed e) })
          acquired
      exact ⟨calls, .error e, m.withPooled released,
        outcome_attach_failed backend.recorded (m := m.record []) onRecord
          ranOnRecord releasingOnRecord,
        outcome_attach_failed backend acquiring running releasing, decided⟩
    · exact ⟨calls, .ok (context, devName),
        m.withPooled { q with session := t },
        outcome_attach_resolved backend.recorded (m := m.record []) onRecord
          ranOnRecord,
        outcome_attach_resolved backend acquiring running, decided⟩
  · rcases f with e | message
    · exact ⟨_, .error (.contextAcquisition d.netnsKey e),
        m.withPooled { m.toPooled with session := t },
        outcome_attach_unopened backend.recorded (m := m.record []) onRecord,
        outcome_attach_unopened backend acquiring,
        .unopened unregistered named untracked e⟩
    · have answered := answers.openHandle d.netnsKey
        (m.session.noting (.contextPrepared d.netnsKey)) message
      rw [opening] at answered
      exact absurd rfl answered

theorem bound_record (m : Manager η) (calls : List κ) (d : Device ε)
    (devName : String) :
    (m.record calls).bound d devName = (m.bound d devName).record calls := by
  have registry : (m.record calls).registry = m.registry := rfl
  rw [bound, bound, registry]
  cases m.registry.boundTo d.selected <;> rfl

end Manager

namespace DeviceState

variable {backend : Backend η ε} {s : DeviceState η ε}
  {rest : List (Device ε)}

/-- Registering on record: the calls follow the protocol, and what they come
to is how the registration ends. -/
theorem exists_record_register (answers : backend.Answers)
    (sound : s.manager.pool.Sound s.manager.contexts) :
    ∃ (events : List BackendEvent) (answer : Except Error String)
        (t : DeviceState η ε),
      outcome (register backend.recorded) (s.record []) =
        ((answer.map fun _ => ()).mapError Fault.error, t.record events) ∧
      outcome (register backend) s =
        ((answer.map fun _ => ()).mapError Fault.error, t) ∧
      RegistrationProtocol s.manager.contexts s.manager.pool s.device events
        answer ∧
      ∀ devName, answer = .ok devName → t.device.devName = some devName := by
  cases unregistered : s.device.isRegistered with
  | true =>
    exact ⟨[], .error (.alreadyRegistered s.device.name), s,
      outcome_register_registered backend.recorded (s := s.record [])
        unregistered,
      outcome_register_registered backend unregistered,
      .alreadyRegistered unregistered, fun _ succeeded => by cases succeeded⟩
  | false =>
    obtain ⟨events, answer, m, onRecord, attaching, decided⟩ :=
      Manager.exists_record_attach answers
        (m := s.manager.inside s.device.registering) sound unregistered
    rcases answer with e | ⟨context, devName⟩
    · exact ⟨events, .error e, { s with manager := m.outside },
        outcome_register_failed backend.recorded (s := s.record [])
          unregistered onRecord,
        outcome_register_failed backend unregistered attaching, decided,
        fun _ succeeded => by cases succeeded⟩
    · let t : DeviceState η ε := { s with
        manager := (m.bound s.device devName).outside
        device := s.device.attached context devName }
      have registering := outcome_register_attached backend.recorded
        (s := s.record []) unregistered onRecord
      rw [Manager.bound_record] at registering
      exact ⟨events, .ok devName, t, registering,
        outcome_register_attached backend unregistered attaching, decided,
        fun _ same => congrArg some (Except.ok.inj same)⟩

end DeviceState

/-! ## What changes -/

/-- An acquisition adds one reference to its own name. -/
theorem Pool.Acquired.refcount?_eq {name : String} {contexts later : Contexts}
    {p q : Pool} {context : Context} (sound : p.Sound contexts)
    (acquired : Pool.Acquired name contexts p context later q)
    (other : String) :
    q.refcount? other =
      if other = name then some ((p.refcount? other).getD 0 + 1)
      else p.refcount? other := by
  rw [(acquired.sound sound).refcount?_eq, acquired.users_eq]
  by_cases same : other = name
  · simp [same, Pool.users]
  · rw [if_neg same, if_neg same, Nat.add_zero, sound.refcount?_eq]

namespace DeviceState

/-- Nothing that a registration works on differs between `s` and `t`. -/
structure Unchanged (s t : DeviceState η ε) : Prop where
  device : t.device = s.device
  registry : t.manager.registry = s.manager.registry
  pool : t.manager.pool = s.manager.pool
  handles : ∀ name context, s.manager.pool.get? name = some context →
    t.manager.contexts.handle? context = s.manager.contexts.handle? context

/-- From `s` to `t` the device has been registered, its interface is called
`devName`, and it holds one more reference to the context of its
namespace. -/
structure Registers (s : DeviceState η ε) (devName : String)
    (t : DeviceState η ε) (context : Context) : Prop where
  device : t.device =
    { s.device with devName := some devName, context := some context }
  registry : t.manager.registry =
    s.manager.registry.bind s.device.id s.device.selected
  held : t.manager.pool.get? s.device.netnsKey = some context
  kept : ∀ name other, s.manager.pool.get? name = some other →
    t.manager.pool.get? name = some other
  counted : ∀ name, t.manager.pool.refcount? name =
    if name = s.device.netnsKey then
      some ((s.manager.pool.refcount? name).getD 0 + 1)
    else s.manager.pool.refcount? name

variable {backend : Backend η ε} {s : DeviceState η ε}
  {rest : List (Device ε)}

theorem register_unchanged_or_registers (answers : backend.Answers)
    (sound : s.manager.Sound backend (s.device :: rest)) :
    (∃ e t, outcome (register backend) s = (.error (.error e), t) ∧
      s.Unchanged t) ∨
    ∃ devName t context, outcome (register backend) s = (.ok (), t) ∧
      s.Registers devName t context := by
  have pooled := sound.leased.sound
  rcases hcontext : s.device.context with _ | held
  · rcases register_cases answers sound hcontext
      with ⟨context, devName, m, -, succeeded, acquired, registry, -⟩ |
        ⟨e, m, failed, pool, extension, registry, -⟩
    · refine Or.inr ⟨devName, _, context, succeeded, ?_⟩
      exact {
        device := rfl
        registry := congrArg
          (Registry.bind · s.device.id s.device.selected) registry
        held := acquired.get?_self
        kept := fun _ _ tracked => acquired.get?_of_get? tracked
        counted := acquired.refcount?_eq pooled }
    · refine Or.inl ⟨e, _, failed, rfl, registry, pool, ?_⟩
      intro name context tracked
      obtain ⟨lease, found, rfl⟩ := Pool.exists_lease_of_get? tracked
      exact extension.handle?_eq (pooled.created found)
  · refine Or.inl ⟨_, s, outcome_register_registered backend
      (Device.isRegistered_eq_true hcontext), rfl, rfl, rfl, ?_⟩
    intro name context _
    rfl

end DeviceState

namespace Fleet

/-- A registration after any run makes calls that the protocol allows, and
ends in the one way that the protocol has for their answers.  If it fails,
nothing has changed; otherwise the device is registered under the name that
was resolved, with one more reference to the context of its namespace. -/
theorem register_is_atomic (backend : Backend η ε)
    (answers : backend.Answers) (host : η) (steps : List (FleetStep ε))
    {label : String} {d : Device ε}
    (found : (run backend (start host) steps).devices.at? label = some d) :
    let f := run backend (start host) steps
    let s := f.working d
    ∃ (events : List BackendEvent) (answer : Except Error String)
        (t : DeviceState η ε),
      outcome (DeviceState.register backend.recorded) (s.record []) =
        ((answer.map fun _ => ()).mapError Fault.error, t.record events) ∧
      outcome (DeviceState.register backend) s =
        ((answer.map fun _ => ()).mapError Fault.error, t) ∧
      outcome (step backend (.operate label .register)) f =
        ((answer.map fun _ => ()).mapError Fault.error, f.worked label t) ∧
      (∀ other, RegistrationProtocol f.manager.contexts f.manager.pool d
        events other ↔ other = answer) ∧
      (∀ e, answer = .error e → s.Unchanged t) ∧
      (∀ devName, answer = .ok devName →
        ∃ context, s.Registers devName t context) := by
  intro f s
  have sound : f.Sound backend :=
    (run_follows answers (sound_start backend host) steps).sound
  have books := sound.select found
  obtain ⟨events, answer, t, onRecord, registering, decided, named⟩ :=
    DeviceState.exists_record_register (s := s) answers books.leased.sound
  refine ⟨events, answer, t, onRecord, registering, ?_, ?_, ?_, ?_⟩
  · have performing : outcome (DeviceState.perform backend .register)
        (f.working d) = _ := registering
    rw [outcome_step_operate found, performing]
  · intro other
    constructor
    · intro alternative
      exact alternative.unique decided
    · intro same
      rw [same]
      exact decided
  · rintro e rfl
    rcases DeviceState.register_unchanged_or_registers (s := s) answers books
      with ⟨e', t', failed, unchanged⟩ | ⟨devName, t', context, succeeded, -⟩
    · rw [registering] at failed
      cases failed
      exact unchanged
    · rw [registering] at succeeded
      cases succeeded
  · rintro devName rfl
    rcases DeviceState.register_unchanged_or_registers (s := s) answers books
      with ⟨e, t', failed, -⟩ | ⟨other, t', context, succeeded, registers⟩
    · rw [registering] at failed
      cases failed
    · rw [registering] at succeeded
      cases succeeded
      have same := named devName rfl
      rw [registers.device] at same
      cases same
      exact ⟨context, registers⟩

theorem registers_tunnelDevice :
    let f := run MemoryHost.backend (start tunnelHost)
      (selectTunnel "a" "first")
    MemoryHost.backend.Answers ∧
    f.devices.at? "a" = some (tunnelDevice 0 "first") ∧
    ∃ devName t context, outcome (DeviceState.register MemoryHost.backend)
        (f.working (tunnelDevice 0 "first")) = (.ok (), t) ∧
      (f.working (tunnelDevice 0 "first")).Registers devName t context := by
  intro f
  have answers := MemoryHost.backend_calm.answers
  have found : f.devices.at? "a" = some (tunnelDevice 0 "first") := by rfl
  obtain ⟨events, answer, t, -, registering, -, -, -, succeeded⟩ :=
    register_is_atomic MemoryHost.backend answers tunnelHost _ found
  refine ⟨answers, found, ?_⟩
  rcases answer with e | devName
  · have result := congrArg Prod.fst registering
    cases result
  · obtain ⟨context, registers⟩ := succeeded devName rfl
    exact ⟨devName, t, context, registering, registers⟩

end Fleet

end InterfaceManager

import InterfaceManager.Proofs.Device.Refreshing
import InterfaceManager.Proofs.InMemory.Effects
import InterfaceManager.Proofs.InMemory.Registering

/-!
# Refreshes in memory

A refresh asks for the name of the interface that the device designates, and
for the state under this name.  As long as no two interfaces of a namespace
have one name, both answers are about the same interface, whatever it was
called before.  A refresh that fails has done no more than asking.
-/

namespace InterfaceManager

open InterfaceManager.Action

/-- The error is one of those with which a query can fail. -/
def Error.isQueryFailure : Error → Bool
  | notRegistered _ | namespaceSwitch _ _ | noSuchDevice _ | linkControl _ _ |
    namespaceRestore _ _ _ => true
  | _ => false

def MemoryLink.state (link : MemoryLink) : LinkState := ⟨link.up, link.mtu⟩

/-! ## Queries of the table -/

namespace MemoryLinks

/-- An interface is found under its own name, if that is unambiguous. -/
theorem Unambiguous.named?_eq {m : MemoryLinks} {key : LinkKey}
    {link : MemoryLink} (unambiguous : m.Unambiguous) (keyed : m.Keyed)
    (found : m.link? key = some link) :
    m.named? key.netns link.name = some (key, link) := by
  have member := mem_table_of_link? found
  have present : (m.named? key.netns link.name).isSome = true := by
    rw [named?, List.find?_isSome]
    exact ⟨_, member, by simp⟩
  obtain ⟨⟨other, named⟩, hnamed⟩ := Option.isSome_iff_exists.mp present
  have here : other.netns = key.netns ∧ named.name = link.name := by
    simpa using List.find?_some hnamed
  have listed : (other, named) ∈ m.table := List.mem_of_find?_eq_some hnamed
  have same := unambiguous _ listed _ member here.1 here.2
  rw [hnamed, keyed.eq_of_key_eq listed member same]

end MemoryLinks

namespace MemoryHost

variable {s : Session MemoryHost}

/-- The state of the interface with a name in the namespace of the call, or
the error without one. -/
def stateOf (h : MemoryHost) (devName : String) : Except Error LinkState :=
  match h.links.named? h.callNamespace devName with
  | some (_, link) => .ok link.state
  | none => .error (MemoryLinks.unknownName "link_state" devName)

theorem outcome_linkState (devName : String) :
    ∃ t, outcome (backend.links.linkState devName) s =
        ((s.host.stateOf devName).mapError Fault.error, t) ∧
      t.host = s.host.called (.linkState devName) := by
  change ∃ t, outcome (onLinks fun netns =>
    MemoryLinks.linkState netns devName) s = _ ∧ _
  have same : ∀ netns, (s.host.links.record netns
      (.linkState devName)).named? netns devName =
        s.host.links.named? netns devName := fun _ => rfl
  simp only [onLinks, outcome_bind, outcome_get, outcome_focus,
    MemoryLinks.linkState, outcome_modify, same, stateOf]
  rcases s.host.links.named? s.host.callNamespace devName with _ | ⟨key, link⟩
  · exact ⟨_, rfl, rfl⟩
  · exact ⟨_, rfl, rfl⟩

def asking (ifindex : IfIndex) : Action (Session MemoryHost)
    (String × LinkState) := do
  let devName ← backend.links.resolveName ifindex
  let state ← backend.links.linkState devName
  return (devName, state)

/-- A query finds the interface with the index, and what it tells is true of
this interface. -/
theorem outcome_asking_present {ifindex : IfIndex} {link : MemoryLink}
    (keyed : s.host.links.Keyed) (unambiguous : s.host.links.Unambiguous)
    (present :
      s.host.links.link? ⟨s.host.callNamespace, ifindex⟩ = some link) :
    ∃ t, outcome (asking ifindex) s = (.ok (link.name, link.state), t) ∧
      t.host =
        (s.host.called (.resolveName ifindex)).called (.linkState link.name) := by
  obtain ⟨u, resolved, resolved_host⟩ := outcome_resolveName (s := s) ifindex
  rw [nameAt, present] at resolved
  obtain ⟨t, told, told_host⟩ := outcome_linkState (s := u) link.name
  have named : u.host.links.named? u.host.callNamespace link.name =
      some (⟨s.host.callNamespace, ifindex⟩, link) := by
    rw [resolved_host]
    exact unambiguous.named?_eq keyed present
  rw [stateOf, named] at told
  refine ⟨t, ?_, by rw [told_host, resolved_host]⟩
  simp only [asking, outcome_bind, resolved, told, Except.mapError,
    outcome_pure]

theorem outcome_asking_absent {ifindex : IfIndex}
    (absent : s.host.links.link? ⟨s.host.callNamespace, ifindex⟩ = none) :
    (outcome (asking ifindex) s).1 =
      .error (.error (.noSuchDevice ifindex)) := by
  obtain ⟨u, resolved, -⟩ := outcome_resolveName (s := s) ifindex
  rw [nameAt, absent] at resolved
  simp only [asking, outcome_bind, resolved, Except.mapError]

/-- The thread can be switched into `netns` and back. -/
structure Passable (h : MemoryHost) (netns : String) : Prop where
  allowed : netns ∉ h.namespaces.failingEnter
  returns : h.namespaces.failingExit = []
  idle : h.pending = .none

/-- A run inside a namespace that the thread can be switched into and back
comes to the value that its action comes to there. -/
theorem runInNamespace_passes {context : Context} {handle : Option Handle}
    {netns : String} (called : context.name = netns)
    (faithful : ∀ opened, handle = some opened → opened.name = netns)
    (isOpen : context.isDefault = true ∨ handle.isSome = true)
    (passable : s.host.Passable netns) (operation : String)
    {act : Action (Session MemoryHost) α} {value : α}
    (acts : ∀ u : Session MemoryHost,
      u.host.callNamespace = s.host.callsFor netns →
      u.host.links = s.host.links → ∃ t, outcome act u = (.ok value, t) ∧
        t.host.namespaces = u.host.namespaces ∧
        t.host.pending = u.host.pending) :
    (outcome (runInNamespace backend.provider context handle operation act)
      s).1 = .ok value := by
  subst called
  rcases named : context.isDefault with _ | _
  · have different : context.name ≠ "" := by
      simpa [Context.isDefault] using named
    obtain ⟨handle, rfl⟩ : ∃ opened, handle = some opened := by
      rw [named] at isOpen
      exact Option.isSome_iff_exists.mp (isOpen.resolve_left (by simp))
    have same : handle.name = context.name := faithful handle rfl
    obtain ⟨t, entering, entered⟩ := enter_allowed handle
      (s := s.noting (.switching context.name operation)) passable.idle
      (same ▸ passable.allowed)
    rw [same] at entered
    have here : t.host.callNamespace = s.host.callsFor context.name := by
      rw [entered]
      exact callNamespace_of_entered different rfl
    obtain ⟨u, acted, namespaces, pending⟩ :=
      acts t here (by rw [entered]; rfl)
    have idle : u.host.pending = .none := by
      rw [pending, entered]
      exact passable.idle
    have returns : u.host.namespaces.failingExit = [] := by
      rw [namespaces, entered]
      exact passable.returns
    obtain ⟨v, leaving, -⟩ :=
      exit_returns (.detached handle.name) idle returns
    rw [outcome_runInNamespace_entered _ _ _ _ handle named entering, acted,
      Scope.outcome_restore, leaving]
    exact Scope.ending_ok _
  · have default : context.name = "" := by
      simpa [Context.isDefault] using named
    have here : s.host.callNamespace = s.host.callsFor context.name := by
      rw [default]
      exact callNamespace_eq_callsFor s.host
    obtain ⟨t, acted, -⟩ := acts s here rfl
    rw [outcome_runInNamespace_default _ _ _ _ handle named, acted]

end MemoryHost

/-! ## Queries of a device -/

namespace Device

variable {d : Device MemoryHost.Adjustment} {m m' : Manager MemoryHost}

theorem query_eq (d : Device MemoryHost.Adjustment) :
    d.query MemoryHost.backend =
      d.onInterface MemoryHost.backend "refresh_link_state" fun _ =>
        MemoryHost.asking d.ifindex := rfl

/-- How work on the interface of a device goes: it fails before it is begun,
or it finds the interfaces as they were before, makes its calls for the
namespace of the device, and leaves the interfaces as they are then. -/
theorem onInterface_cases
    (leads : ∀ context, d.context = some context →
      m.contexts.LeadsTo context d.netnsKey)
    (operation : String) (act : String → Action (Session MemoryHost) α) :
    let ran := outcome (d.onInterface MemoryHost.backend operation act) m
    (∃ e, ran.1 = .error (.error e) ∧ e.isQueryFailure = true) ∨
    ∃ devName u back,
      u.host.callNamespace = m.session.host.callsFor d.netnsKey ∧
      u.host.links = m.session.host.links ∧
      ran.1 = Scope.ending (outcome (act devName) u).1 back ∧
      ran.2.session.host.links = (outcome (act devName) u).2.host.links ∧
      (back = .ok () ∨ ∃ place message, back =
        .error (.error (.namespaceRestore place message none))) := by
  intro ran
  rcases bound : d.context with _ | context
  · rw [show ran = _ from outcome_onInterface_unbound _ operation act m bound]
    exact Or.inl ⟨_, rfl, rfl⟩
  · rcases known : d.devName with _ | devName
    · refine Or.inl ⟨.notRegistered d.name, ?_, rfl⟩
      simp only [ran, onInterface, bound, known]
      rfl
    · obtain ⟨span, running⟩ := outcome_onInterface_bound MemoryHost.backend
        operation act m bound known
      rw [Manager.outcome_within] at running
      obtain ⟨called, faithful⟩ := leads context bound
      rw [show ran = _ from running]
      rcases MemoryHost.runInNamespace_cases called faithful operation
          (act devName) (m.session.enterSpan span)
        with ⟨place, message, refused, -⟩ | ⟨u, back, inside⟩
      · exact Or.inl ⟨_, refused, rfl⟩
      · exact Or.inr ⟨devName, u, back, inside⟩

section Queries

variable
  (leads : ∀ context, d.context = some context →
    m.contexts.LeadsTo context d.netnsKey)
  (keyed : m.session.host.links.Keyed)
  (unambiguous : m.session.host.links.Unambiguous)
include leads keyed unambiguous

/-- A query that succeeds tells the name and the state of the interface that
the device designates, as they are in the namespace where the calls are
made, and does no more than making two calls there. -/
theorem query_ok {found : String × LinkState}
    (querying : outcome (d.query MemoryHost.backend) m = (.ok found, m')) :
    let netns := m.session.host.callsFor d.netnsKey
    ∃ link, m.session.host.links.link? ⟨netns, d.ifindex⟩ = some link ∧
      found = (link.name, link.state) ∧
      m'.session.host.links = { m.session.host.links with
        calls := m.session.host.links.calls ++
          [⟨netns, .resolveName d.ifindex⟩,
            ⟨netns, .linkState link.name⟩] } := by
  intro netns
  have cases := onInterface_cases leads "refresh_link_state" fun _ =>
    MemoryHost.asking d.ifindex
  rw [← query_eq, querying] at cases
  obtain ⟨e, failed, -⟩ |
    ⟨devName, u, back, here, links, ended, left, -⟩ := cases
  · cases failed
  · obtain ⟨answered, -⟩ := Scope.eq_ok_of_ending ended.symm
    rw [← links] at keyed unambiguous ⊢
    rw [show netns = _ from here.symm, show m'.session.host.links = _ from left]
    rcases present : u.host.links.link? ⟨u.host.callNamespace, d.ifindex⟩
      with _ | link
    · rw [MemoryHost.outcome_asking_absent present] at answered
      cases answered
    · obtain ⟨t, told, host⟩ :=
        MemoryHost.outcome_asking_present keyed unambiguous present
      rw [told] at answered ⊢
      cases answered
      refine ⟨link, rfl, rfl, ?_⟩
      have links : t.host.links = (u.host.links.record u.host.callNamespace
          (.resolveName d.ifindex)).record u.host.callNamespace
            (.linkState link.name) := congrArg MemoryHost.links host
      rw [links, MemoryLinks.record, MemoryLinks.record, List.append_assoc]
      rfl

theorem query_error {e : Error}
    (querying : outcome (d.query MemoryHost.backend) m =
      (.error (.error e), m')) :
    e.isQueryFailure = true := by
  have cases := onInterface_cases leads "refresh_link_state" fun _ =>
    MemoryHost.asking d.ifindex
  rw [← query_eq, querying] at cases
  obtain ⟨e', failed, kind⟩ |
    ⟨devName, u, back, -, links, ended, -, rfl | ⟨place, message, rfl⟩⟩ := cases
  · cases failed
    exact kind
  · rw [Scope.ending_ok] at ended
    rw [← links] at keyed unambiguous
    rcases present : u.host.links.link? ⟨u.host.callNamespace, d.ifindex⟩
      with _ | link
    · rw [MemoryHost.outcome_asking_absent present] at ended
      cases ended
      rfl
    · obtain ⟨t, told, -⟩ :=
        MemoryHost.outcome_asking_present keyed unambiguous present
      rw [told] at ended
      cases ended
  · -- Whatever the query came to, the failed switch back is the answer.
    rcases asked : (outcome (MemoryHost.asking d.ifindex) u).1
      with (failure | panicked) | found <;>
      rw [asked] at ended <;> cases ended <;> rfl

/-- A query succeeds if the thread can be switched there and back, and if the
interface is there. -/
theorem query_succeeds {devices : List (Device MemoryHost.Adjustment)}
    (sound : m.Sound MemoryHost.backend devices) (among : d ∈ devices)
    (registered : d.isRegistered = true)
    (passable : m.session.host.Passable d.netnsKey) {link : MemoryLink}
    (present : m.session.host.links.link?
      ⟨m.session.host.callsFor d.netnsKey, d.ifindex⟩ = some link) :
    (outcome (d.query MemoryHost.backend) m).1 =
      .ok (link.name, link.state) := by
  obtain ⟨context, bound⟩ := Option.isSome_iff_exists.mp registered
  have named := (sound.coherent d among).named
  rw [registered, Option.isSome_iff_exists] at named
  obtain ⟨devName, known⟩ := named
  obtain ⟨span, running⟩ := outcome_onInterface_bound MemoryHost.backend
    "refresh_link_state" (fun _ => MemoryHost.asking d.ifindex) m bound known
  obtain ⟨called, faithful⟩ := leads context bound
  have isOpen := sound.leased.isOpen among bound
  rw [Contexts.isOpen, Bool.or_eq_true] at isOpen
  rw [query_eq, running, Manager.outcome_within]
  refine MemoryHost.runInNamespace_passes called faithful isOpen
    (s := m.session.enterSpan span) passable "refresh_link_state" ?_
  intro u here links
  have found : u.host.links.link? ⟨u.host.callNamespace, d.ifindex⟩ =
      some link := by
    rw [here, links]
    exact present
  obtain ⟨t, told, host⟩ := MemoryHost.outcome_asking_present
    (links ▸ keyed) (links ▸ unambiguous) found
  exact ⟨t, told, by rw [host]; rfl, by rw [host]; rfl⟩

end Queries

end Device

/-! ## Refreshes -/

namespace Fleet

open DeviceState

/-- What a run leaves for the next operation of a device to rely on. -/
theorem run_working {host : MemoryHost} (keyed : host.links.Keyed)
    (steps : List (FleetStep MemoryHost.Adjustment)) {label : String}
    {d : Device MemoryHost.Adjustment} :
    let f := run MemoryHost.backend (start host) steps
    f.devices.at? label = some d →
      f.manager.Sound MemoryHost.backend (d :: f.others label) ∧
      (∀ context, d.context = some context →
        f.manager.contexts.LeadsTo context d.netnsKey) ∧
      f.host.links.Keyed := by
  intro f found
  have sound : f.Sound MemoryHost.backend := (run_follows
    MemoryHost.backend_calm.answers (sound_start _ host) steps).sound
  have tracks : f.manager.Tracks :=
    run_keeps_lasting Manager.Tracks.lasting (Manager.Tracks.start host) steps
  refine ⟨sound.select found, fun context bound => ?_, ?_⟩
  · apply tracks.faithful.leadsTo tracks.sound
    exact (sound.select found).leased.held d List.mem_cons_self context bound
  · exact run_keeps_lasting MemoryHost.lasting_keyed (f := start host) keyed
      steps

/-- A refresh that finds what the device knows already has no effect on any
device, calls no callback, and announces nothing. -/
theorem refresh_of_known {host : MemoryHost} (keyed : host.links.Keyed)
    (steps : List (FleetStep MemoryHost.Adjustment)) {label : String}
    {d : Device MemoryHost.Adjustment} {link : MemoryLink} :
    let f := run MemoryHost.backend (start host) steps
    f.devices.at? label = some d → f.host.links.Unambiguous →
    f.host.links.link? ⟨f.host.callsFor d.netnsKey, d.ifindex⟩ = some link →
    (∀ observation ∈ findings link.name link.state,
      d.observed observation.kind = some observation) →
    let g := (outcome (step MemoryHost.backend (.operate label .refresh)) f).2
    (∀ other, g.devices.at? other = f.devices.at? other) ∧
    g.reports = f.reports ∧
    g.manager.session.changes = f.manager.session.changes := by
  intro f found unambiguous present known g
  obtain ⟨sound, leads, unique⟩ := run_working keyed steps found
  have same : ∀ devName state m,
      outcome (d.query MemoryHost.backend) f.manager =
        (.ok (devName, state), m) →
      ∀ observation ∈ findings devName state,
        d.observed observation.kind = some observation := by
    intro devName state m querying
    obtain ⟨link', present', answer, -⟩ :=
      Device.query_ok leads unique unambiguous querying
    cases answer
    rw [Option.some.inj (present'.symm.trans present)]
    exact known
  obtain ⟨session, ended, unreported⟩ := refresh_known (s := f.working d)
    MemoryHost.backend_calm.answers sound same
  have performed : g = f.worked label _ :=
    congrArg Prod.snd (outcome_step_operate found .refresh)
  rw [performed, show (outcome (perform MemoryHost.backend .refresh)
    (f.working d)).2 = _ from ended]
  exact ⟨at?_worked_of_eq found rfl, rfl,
    unreported MemoryHost.backend_calm.discreet⟩

/-- After any run a refresh of a device is all or nothing and tells the truth.
It does not fail if the device is registered, the thread can be switched there
and back, and the interface is there.  If it fails, which it does with an error
of a few kinds, then no device has changed, no callback has been called, and
nothing has been announced.  If it succeeds, then just two calls have been
recorded, for the name of the interface with the index of the device and for
the state under this name, in the namespace where the calls are made.  What
they told are now the values of the device; nothing else than the callbacks for
those of the values that are new, in their order, has had an effect on the host
after that.  As long as the device has these values, a refresh that finds them
again has no effect. -/
theorem run_refreshes_truly {host : MemoryHost} (keyed : host.links.Keyed)
    (steps : List (FleetStep MemoryHost.Adjustment)) :
    let f := run MemoryHost.backend (start host) steps
    ∀ label d, f.devices.at? label = some d → f.host.links.Unambiguous →
      let done := outcome
        (step MemoryHost.backend (.operate label .refresh)) f
      let g := done.2
      let netns := f.host.callsFor d.netnsKey
      (d.isRegistered = true → f.host.Passable d.netnsKey →
        (f.host.links.link? ⟨netns, d.ifindex⟩).isSome = true →
        ∀ e, done.1 ≠ .error (.error e)) ∧
      (∀ e, done.1 = .error (.error e) → e.isQueryFailure = true ∧
        (∀ other, g.devices.at? other = f.devices.at? other) ∧
        g.reports = f.reports ∧
        g.manager.session.changes = f.manager.session.changes) ∧
      (done.1 = .ok () → ∃ link asked,
        let found := findings link.name link.state
        f.host.links.link? ⟨netns, d.ifindex⟩ = some link ∧
        asked.links = { f.host.links with
          calls := f.host.links.calls ++
            [⟨netns, .resolveName d.ifindex⟩,
              ⟨netns, .linkState link.name⟩] } ∧
        CalledInTurn MemoryHost.backend d asked (d.heard found) g.host ∧
        Report.calls g.reports = Report.calls f.reports ++ d.heard found ∧
        g.manager.session.changes = f.manager.session.changes ++
          (d.news found).map (fun observation =>
            (d.name, observation.changeOf d)) ∧
        g.devices.at? label = some { d with
          devName := some link.name
          up := some link.up
          mtu := some link.mtu } ∧
        (∀ other, other ≠ label →
          g.devices.at? other = f.devices.at? other) ∧
        ∀ between later again, let h := run MemoryHost.backend g between
          h.devices.at? label = some later →
          (∀ observation ∈ found,
            later.observed observation.kind = some observation) →
          h.host.links.Unambiguous →
          h.host.links.link?
            ⟨h.host.callsFor later.netnsKey, later.ifindex⟩ = some again →
          again.name = link.name → again.state = link.state →
          let k := (outcome
            (step MemoryHost.backend (.operate label .refresh)) h).2
          (∀ other, k.devices.at? other = h.devices.at? other) ∧
          k.reports = h.reports ∧
          k.manager.session.changes = h.manager.session.changes) := by
  intro f label d found unambiguous done g netns
  obtain ⟨sound, leads, unique⟩ := run_working keyed steps found
  have answers : MemoryHost.backend.Answers := MemoryHost.backend_calm.answers
  rcases refreshing : outcome (perform MemoryHost.backend .refresh)
    (f.working d) with ⟨result, t⟩
  have performed : done = (result, f.worked label t) := by
    rw [show done = _ from outcome_step_operate found .refresh, refreshing]
  have after : g = f.worked label t := congrArg Prod.snd performed
  rw [performed]
  refine ⟨?_, ?_, ?_⟩
  · rintro registered passable present e rfl
    obtain ⟨link, present⟩ := Option.isSome_iff_exists.mp present
    obtain ⟨session, querying, -⟩ := refresh_error answers sound refreshing
    have succeeds := Device.query_succeeds leads unique unambiguous sound
      List.mem_cons_self registered passable present
    have both := (congrArg Prod.fst querying).symm.trans succeeds
    cases both
  · rintro e rfl
    obtain ⟨session, querying, rfl, unreported⟩ :=
      refresh_error answers sound refreshing
    have kind := Device.query_error leads unique unambiguous querying
    rw [after]
    exact ⟨kind, at?_worked_of_eq found rfl, rfl,
      unreported MemoryHost.backend_calm.discreet⟩
  · rintro rfl
    obtain ⟨devName, state, session, querying, unreported, noted⟩ :=
      refresh_ok answers sound refreshing
    obtain ⟨link, present, answer, asked⟩ :=
      Device.query_ok leads unique unambiguous querying
    cases answer
    have silent := unreported MemoryHost.backend_calm.discreet
    have device : g.devices.at? label = some { d with
        devName := some link.name
        up := some link.up
        mtu := some link.mtu } := by
      rw [after]
      exact (Labelled.at?_put _ _ _).trans (congrArg some noted.device)
    refine ⟨link, session.host, present, asked, ?_, ?_, ?_, device, ?_, ?_⟩
    · rw [after]
      exact noted.host
    · rw [after]
      exact noted.calls
    · rw [after]
      exact (noted.changes MemoryHost.backend_calm.discreet).trans
        (congrArg (· ++ _) silent)
    · intro other different
      rw [after]
      exact Labelled.at?_put_of_ne _ different _
    · intro between later again h found' known unambiguous' present' name state
      -- The later refresh is the next step of a longer run.
      have whole : h = run MemoryHost.backend (start host)
          (steps ++ .operate label .refresh :: between) :=
        (run_append MemoryHost.backend (start host) steps
          (.operate label .refresh :: between)).symm
      rw [whole] at found' unambiguous' present' ⊢
      rw [← name, ← state] at known
      exact refresh_of_known keyed _ found' unambiguous' present' known

/-- The tunnel is renamed while a device is registered on it.  When the device
learns that the tunnel is down it brings the tunnel up. -/
def renameTunnel : List (FleetStep MemoryHost.Adjustment) :=
  .adjust (.allowChanges true) :: selectTunnel "a" "tunnel" ++
    [.operate "a" .register,
      .operate "a" (.setCallback .upDown (some [.bringUpDown true])),
      .adjust (.renameLink ⟨"ns", ⟨5⟩⟩ "tun1")]

/-- The device knows what the query has found, although its callback has
changed the interface since.  Once the interface is down again, another
refresh finds nothing new. -/
theorem refreshed_after_renameTunnel :
    let f := run MemoryHost.backend (start tunnelHost) renameTunnel
    let d := { tunnelDevice 0 "tunnel" with
      devName := some "tun0"
      onUpDown := some [.bringUpDown true]
      context := some ⟨0, "ns"⟩ }
    let done := outcome (step MemoryHost.backend (.operate "a" .refresh)) f
    let g := done.2
    let h := run MemoryHost.backend g
      [.adjust (.setLinkState ⟨"ns", ⟨5⟩⟩ ⟨false, 1500⟩)]
    let k := (outcome (step MemoryHost.backend (.operate "a" .refresh)) h).2
    tunnelHost.links.Keyed ∧ f.devices.at? "a" = some d ∧
    f.host.links.Unambiguous ∧ done.1 = .ok () ∧
    g.devices.at? "a" = some { d with
      devName := some "tun1", up := some false, mtu := some 1500 } ∧
    (g.host.links.link? ⟨"ns", ⟨5⟩⟩).map MemoryLink.up = some true ∧
    (∃ asked, asked.links.table = f.host.links.table ∧
      asked.links.calls = f.host.links.calls ++
        [⟨"ns", .resolveName ⟨5⟩⟩, ⟨"ns", .linkState "tun1"⟩] ∧
      CalledInTurn MemoryHost.backend d asked [.upDown false] g.host) ∧
    g.manager.session.changes = f.manager.session.changes ++
      [("tunnel", .renamed "tun0" "tun1"), ("tunnel", .linkUpDown false),
        ("tunnel", .mtuChanged 1500)] ∧
    k.devices.at? "a" = h.devices.at? "a" ∧ k.reports = h.reports := by
  intro f d done g h k
  have keyed : tunnelHost.links.Keyed := by decide +kernel
  have found : f.devices.at? "a" = some d := by rfl
  have unambiguous : f.host.links.Unambiguous := by decide +kernel
  have returned : done.1 = .ok () := by
    have good : done.1.isOk = true := by decide +kernel
    rcases ended : done.1 with f | ⟨⟩
    · rw [ended] at good
      cases good
    · rfl
  have place : f.host.callsFor d.netnsKey = "ns" := by decide +kernel
  have tunnel : f.host.links.link? ⟨f.host.callsFor d.netnsKey, d.ifindex⟩ =
      some (.fresh "tun1") := by decide +kernel
  have raised : (g.host.links.link? ⟨"ns", ⟨5⟩⟩).map MemoryLink.up =
      some true := by decide +kernel
  have lowered : h.host.links.Unambiguous := by decide +kernel
  have present' : h.host.links.link? ⟨h.host.callsFor d.netnsKey, d.ifindex⟩ =
      some (.fresh "tun1") := by decide +kernel
  have heard : d.heard (findings "tun1" ⟨false, 1500⟩) = [.upDown false] := by
    decide
  have news : d.news (findings "tun1" ⟨false, 1500⟩) =
      findings "tun1" ⟨false, 1500⟩ := by
    decide
  have truly := run_refreshes_truly keyed renameTunnel "a" d
  -- From here on the run must not be carried out again.
  clear_value (reached : f = _)
  rw [← reached] at truly
  obtain ⟨-, -, accurate⟩ := truly found unambiguous
  obtain ⟨link, asked, present, queried, called, -, changes, device, -,
    again⟩ := accurate returned
  obtain rfl : link = .fresh "tun1" :=
    Option.some.inj (present.symm.trans tunnel)
  have kept : h.devices = g.devices := devices_run_adjust _ g _
  have standing : h.devices.at? "a" = some { d with
      devName := some "tun1", up := some false, mtu := some 1500 } := by
    rw [kept]
    exact device
  obtain ⟨devices, reports, -⟩ := again _ _ _ standing (by decide) lowered
    present' rfl rfl
  refine ⟨keyed, found, unambiguous, returned, device, raised,
    ⟨asked, by rw [queried], ?_, ?_⟩, ?_, devices "a", reports⟩
  · rw [queried, place]
    rfl
  · exact heard ▸ called
  · rw [changes]
    exact news ▸ rfl

end Fleet
end InterfaceManager

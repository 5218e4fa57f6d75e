import InterfaceManager.Proofs.InMemory.Isolation

/-!
# Changes reach interfaces by name

A change through a registered device is made in the namespace of the device,
on the interface that has the name the device knows.  No other interface is
touched.  Is the interface that the device designates still called by this
name, then it is the only one that can change; otherwise another interface
may have got the name in the meantime, and then the change is made there.
-/

namespace InterfaceManager

open InterfaceManager.Action
open BackendEvent (stranded)
open MemoryHost (Traced)

namespace MemoryLinks

/-- No two interfaces of one namespace have one name. -/
def Unambiguous (m : MemoryLinks) : Prop :=
  ∀ a ∈ m.table, ∀ b ∈ m.table,
    a.1.netns = b.1.netns → a.2.name = b.2.name → a.1 = b.1

instance (m : MemoryLinks) : Decidable m.Unambiguous :=
  inferInstanceAs (Decidable (∀ a ∈ m.table, ∀ b ∈ m.table, _))

/-- The interfaces differ at most where one of them is called `devName` in
`netns`. -/
def Reached (netns devName : String) (m m' : MemoryLinks) : Prop :=
  ∀ key, m'.link? key ≠ m.link? key →
    key.netns = netns ∧ ∃ link, (key, link) ∈ m.table ∧ link.name = devName

variable {netns devName : String} {m m' : MemoryLinks}

theorem Reached.of_table_eq (same : m'.table = m.table) :
    Reached netns devName m m' := by
  intro key changed
  rw [link?, link?, same] at changed
  exact absurd rfl changed

theorem mem_table_of_link? {key : LinkKey} {link : MemoryLink}
    (found : m.link? key = some link) : (key, link) ∈ m.table := by
  rw [link?, Option.map_eq_some_iff] at found
  obtain ⟨⟨other, _⟩, hfind, rfl⟩ := found
  have same : other = key := by simpa using List.find?_some hfind
  exact same ▸ List.mem_of_find?_eq_some hfind

/-- Changing the interface at a key changes no other one. -/
theorem link?_update_of_ne (m : MemoryLinks) {key other : LinkKey}
    (different : other ≠ key) (f : MemoryLink → MemoryLink) :
    (m.update key f).link? other = m.link? other := by
  simp only [link?, update]
  induction m.table with
  | nil => rfl
  | cons entry rest ih =>
    obtain ⟨here, link⟩ := entry
    by_cases hother : here = other
    · subst hother
      simp [different]
    · by_cases hkey : here = key
      · subst hkey
        simpa [hother] using ih
      · simpa [hkey, hother] using ih

/-- A change reaches only the interface that has the name. -/
theorem reached_change (operation netns devName : String)
    (request : LinkRequest) (f : MemoryLink → MemoryLink)
    (s : Session MemoryLinks) :
    Reached netns devName s.host
      (outcome (change operation netns devName request f) s).2.host := by
  simp only [change, outcome_bind, outcome_modify, outcome_get]
  split
  · simp only [outcome_bind, outcome_get]
    rcases found : (s.host.record netns request).named? netns devName
      with _ | ⟨key, link⟩
    · exact .of_table_eq rfl
    · have member : (key, link) ∈ s.host.table := List.mem_of_find?_eq_some found
      have called : key.netns = netns ∧ link.name = devName := by
        simpa using List.find?_some found
      intro other changed
      by_cases same : other = key
      · exact same ▸ ⟨called.1, link, member, called.2⟩
      · exact absurd (link?_update_of_ne _ same f) changed
  · exact .of_table_eq rfl

end MemoryLinks

/-! ## Runs inside a namespace -/

namespace MemoryHost

/-- The calls of the provider leave the interfaces alone. -/
theorem unlessPending_keeps_links (links : MemoryLinks) (call : ProviderCall)
    (act : Action (Session MemoryNamespaces) α) :
    (unlessPending call act).Keeps fun s => s.host.links = links := by
  refine Keeps.get.bind fun s => ?_
  split
  · exact Keeps.bind (.modify fun _ same => same) fun _ => .fail _ _
  · intro t same
    rw [onNamespaces, outcome_focus]
    exact same

theorem recorded_keeps_links {links : MemoryLinks}
    {act : Action (Session MemoryHost) α}
    (keeps : act.Keeps fun s => s.host.links = links)
    (event : Outcome α → BackendEvent) :
    (act.recorded event).Keeps
      fun s : Session Traced => s.host.host.links = links := by
  intro s same
  rw [outcome_recorded_eq]
  exact keeps ⟨s.host.host, s.journal⟩ same

theorem enter_keeps_links (links : MemoryLinks) (handle : Handle) :
    (backend.recorded.provider.enter handle).Keeps
      fun s => s.host.host.links = links :=
  recorded_keeps_links
    (unlessPending_keeps_links links .entering
      (MemoryNamespaces.enter handle))
    fun answer => .provider (.entered handle answer)

theorem exit_keeps_links (links : MemoryLinks) (state : SwitchState) :
    (backend.recorded.provider.exit state).Keeps
      fun s => s.host.host.links = links :=
  recorded_keeps_links
    (unlessPending_keeps_links links .exiting (MemoryNamespaces.exit state))
    fun answer => .provider (.left state answer)

/-- What `act` does to the interfaces reaches only the one called `devName`
where the thread is. -/
def Reaches (devName : String) (act : Action (Session Traced) α) : Prop :=
  ∀ s, MemoryLinks.Reached s.host.host.callNamespace devName
    s.host.host.links (outcome act s).2.host.host.links

theorem onLinks_reaches {devName : String}
    {act : String → Action (Session MemoryLinks) α}
    (reaches : ∀ netns s, MemoryLinks.Reached netns devName s.host
      (outcome (act netns) s).2.host)
    (event : Outcome α → BackendEvent) :
    Reaches devName ((onLinks act).recorded event) := by
  intro s
  rw [outcome_recorded_eq]
  simp only [onLinks, outcome_bind, outcome_get, outcome_focus]
  exact reaches _ _

theorem setUp_reaches (devName : String) (up : Bool) :
    Reaches devName (backend.recorded.links.setUp devName up) :=
  onLinks_reaches
    (fun netns s => MemoryLinks.reached_change _ netns devName _ _ s)
    fun answer => .link (.upDown devName up answer)

theorem addAddress_reaches (devName : String) (address : Address)
    (length : UInt8) :
    Reaches devName
      (backend.recorded.links.addAddress devName address length) :=
  onLinks_reaches
    (fun netns s => MemoryLinks.reached_change _ netns devName _ _ s)
    fun answer => .link (.addressAdded devName address length answer)

theorem addRoute_reaches (devName : String) (destination : Address)
    (length : UInt8) (gateway : Option Address) :
    Reaches devName
      (backend.recorded.links.addRoute devName destination length gateway) :=
  onLinks_reaches
    (fun netns s => MemoryLinks.reached_change _ netns devName _ _ s)
    fun answer =>
      .link (.routeAdded devName destination length gateway answer)

theorem Reaches.noted {devName : String} {act : Action (Session Traced) α}
    (reaches : Reaches devName act) (n : Notice) :
    Reaches devName (do
      Session.note n
      act) :=
  fun s => reaches (s.noting n)

/-- Inside a namespace, entered from outside all others, only the interface
called `devName` there is reached. -/
theorem runInNamespace_reached {context : Context} {handle : Option Handle}
    {netns devName : String} (called : context.name = netns)
    (faithful : ∀ opened, handle = some opened → opened.name = netns)
    (operation : String) {act : Action (Session Traced) α}
    (reaches : Reaches devName act) {s : Session Traced}
    (current : s.host.host.probe = .current)
    (outside : s.host.host.namespaces.stack = []) :
    MemoryLinks.Reached netns devName s.host.host.links
      (outcome (runInNamespace backend.recorded.provider context handle
        operation act) s).2.host.host.links := by
  subst called
  cases named : context.isDefault with
  | true =>
    have default : context.name = "" := by
      simpa [Context.isDefault] using named
    have here : s.host.host.callNamespace = "" := by
      simp [callNamespace, current, MemoryNamespaces.current, outside]
    have reached := reaches s
    rw [here] at reached
    rw [outcome_runInNamespace_default _ _ _ _ handle named, default]
    exact reached
  | false =>
    cases handle with
    | none =>
      rw [outcome_runInNamespace_closed _ _ _ _ named]
      exact .of_table_eq rfl
    | some handle =>
      have same : handle.name = context.name := faithful handle rfl
      have kept := enter_keeps_links s.host.host.links handle
        (s.noting (.switching context.name operation)) rfl
      rcases unlessPending_cases .entering (handle.name :: ·)
          (fun s => MemoryNamespaces.enter_cases s handle)
          (fun answer => .provider (.entered handle answer))
          (s.noting (.switching context.name operation))
        with ⟨e, t, entering, -, -⟩ | ⟨t, entering, -, traffic⟩
      · have refused : t.host.host.links = s.host.host.links :=
          (congrArg (fun ran => ran.2.host.host.links) entering).symm.trans kept
        rw [outcome_runInNamespace_refused _ _ _ _ handle named entering]
        exact .of_table_eq (congrArg MemoryLinks.table refused)
      · have entered : t.host.host.links = s.host.host.links :=
          (congrArg (fun ran => ran.2.host.host.links) entering).symm.trans kept
        rw [outcome_runInNamespace_entered _ _ _ _ handle named entering,
          Scope.host_restore]
        have stack : t.host.host.namespaces.stack =
            handle.name :: s.host.host.namespaces.stack :=
          congrArg Traffic.stack traffic
        have inside : t.host.host.probe = .current :=
          (congrArg Traffic.probe traffic).trans current
        have here : t.host.host.callNamespace = context.name := by
          simp [callNamespace, inside, MemoryNamespaces.current, stack, same]
        have reached := reaches t
        have left := exit_keeps_links (outcome act t).2.host.host.links
          (.detached handle.name) (outcome act t).2 rfl
        rw [here, entered] at reached
        rw [left]
        exact reached

end MemoryHost

/-! ## Changes through a device -/

namespace Device

/-- The interfaces differ at most where one of them, in the namespace of the
device, has the name that the device knows. -/
def Reaches (d : Device ε) (m m' : MemoryLinks) : Prop :=
  ∀ key, m'.link? key ≠ m.link? key →
    key.netns = d.netnsKey ∧
      ∃ link, (key, link) ∈ m.table ∧ d.devName = some link.name

variable {d : Device MemoryHost.Adjustment} {m m' : MemoryLinks}

/-- If the interface that the device designates has the name, then no other
interface differs. -/
theorem Reaches.eq_of_ne (reaches : d.Reaches m m')
    (unambiguous : m.Unambiguous)
    (known : (m.link? ⟨d.netnsKey, d.ifindex⟩).map MemoryLink.name = d.devName)
    {key : LinkKey} (different : key ≠ ⟨d.netnsKey, d.ifindex⟩) :
    m'.link? key = m.link? key := by
  by_contra changed
  obtain ⟨netns, link, member, devName⟩ := reaches key changed
  rw [devName, Option.map_eq_some_iff] at known
  obtain ⟨own, found, name⟩ := known
  have designated := MemoryLinks.mem_table_of_link? found
  exact different (unambiguous _ member _ designated netns name.symm)

/-- A change through a device reaches the interface it knows by name. -/
theorem onInterface_reaches {manager : Manager Traced}
    (current : manager.session.host.host.probe = .current)
    (outside : manager.session.host.host.namespaces.stack = [])
    (leads : ∀ context, d.context = some context →
      manager.contexts.LeadsTo context d.netnsKey)
    (operation : String) {act : String → Action (Session Traced) α}
    (hact : ∀ devName, MemoryHost.Reaches devName (act devName)) :
    d.Reaches manager.session.host.host.links
      (outcome (d.onInterface MemoryHost.backend.recorded operation act)
        manager).2.session.host.host.links := by
  rcases bound : d.context with _ | context
  · rw [outcome_onInterface_unbound _ operation act manager bound]
    exact fun _ changed => absurd rfl changed
  · rcases named : d.devName with _ | devName
    · simp only [onInterface, bound, named]
      exact fun _ changed => absurd rfl changed
    · obtain ⟨span, running⟩ := outcome_onInterface_bound
        MemoryHost.backend.recorded operation act manager bound named
      obtain ⟨called, faithful⟩ := leads context bound
      rw [Manager.outcome_within] at running
      have reached := MemoryHost.runInNamespace_reached called faithful
        operation (hact devName) (s := manager.session.enterSpan span)
        current outside
      rw [running]
      intro key changed
      obtain ⟨netns, link, member, name⟩ := reached key changed
      exact ⟨netns, link, member, named.trans (congrArg some name.symm)⟩

end Device

/-- An operation that changes the interface of a device reaches the one that
the device knows by name. -/
theorem DeviceState.perform_reaches
    {s : DeviceState Traced MemoryHost.Adjustment} (settled : s.Settled)
    (outside : s.manager.session.host.host.namespaces.stack = [])
    {operation : DeviceOperation MemoryHost.Adjustment}
    (changes : operation.changesInterface = true) :
    s.device.Reaches s.manager.session.host.host.links
      (outcome (perform MemoryHost.backend.recorded operation)
        s).2.manager.session.host.host.links := by
  have through : ∀ name {act : String → Action (Session Traced) Unit},
      (∀ devName, MemoryHost.Reaches devName (act devName)) →
      s.device.Reaches s.manager.session.host.host.links
        (outcome (onInterface fun device => device.onInterface
          MemoryHost.backend.recorded name act)
            s).2.manager.session.host.host.links := by
    intro name act hact
    have reaches := Device.onInterface_reaches settled.current outside
      settled.leads name hact
    rw [onInterface, outcome_bind, outcome_getDevice]
    simp only [outcome_onManager]
    exact reaches
  cases operation with
  | bringUpDown up =>
    refine through "bring_up_down" fun devName => ?_
    exact (MemoryHost.setUp_reaches devName up).noted _
  | addAddress address length =>
    refine through "add_address" fun devName => ?_
    exact (MemoryHost.addAddress_reaches devName address length).noted _
  | addRoute destination length gateway =>
    refine through "add_route" fun devName => ?_
    exact (MemoryHost.addRoute_reaches devName destination length
      gateway).noted _
  | _ => cases changes

namespace Fleet

/-- As long as every namespace could be left, a change through a device
reaches at most the interface that has, in the namespace of the device, the
name which the device knows.  If this is still the name of the interface that
the device designates, no other interface changes. -/
theorem changes_reach_known_name {host : MemoryHost}
    (outside : host.namespaces.stack = []) (current : host.probe = .current)
    (steps : List (FleetStep MemoryHost.Adjustment))
    (keeps : ∀ next ∈ steps, next.keepsProbe = true) :
    let f := run MemoryHost.backend.recorded (start ⟨host, []⟩) steps
    f.onto Recorded.host = run MemoryHost.backend (start host) steps ∧
    ∀ label d operation, stranded f.host.calls = [] →
      f.devices.at? label = some d → operation.changesInterface = true →
      let before := f.host.host.links
      let after := (outcome (step MemoryHost.backend.recorded
        (.operate label operation)) f).2.host.host.links
      (∀ key, after.link? key ≠ before.link? key →
        key.netns = d.netnsKey ∧
          ∃ link, (key, link) ∈ before.table ∧ d.devName = some link.name) ∧
      (before.Unambiguous →
        (before.link? ⟨d.netnsKey, d.ifindex⟩).map MemoryLink.name =
          d.devName →
        ∀ key, key ≠ ⟨d.netnsKey, d.ifindex⟩ →
          after.link? key = before.link? key) := by
  intro f
  have placed : f.Placed := run_placed (placed_start outside current) keeps
  refine ⟨run_onto (Backend.recorded_mirrors _) _ steps, ?_⟩
  intro label d operation returned found changes before after
  have left : f.host.host.namespaces.stack = [] := by
    rw [placed.stack, returned]
    rfl
  have reaches : d.Reaches before after := by
    have performed := DeviceState.perform_reaches (placed.settled found) left
      changes
    have stepped : after = (outcome (DeviceState.perform
        MemoryHost.backend.recorded operation)
          (f.working d)).2.manager.session.host.host.links :=
      congrArg (fun ran => ran.2.host.host.links)
        (outcome_step_operate found operation)
    rw [stepped]
    exact performed
  exact ⟨reaches, fun unambiguous known _ different =>
    reaches.eq_of_ne unambiguous known different⟩

/-- Beside the tunnel there is another interface, which can be changed too,
and a device registers on the tunnel. -/
def besideTunnel : List (FleetStep MemoryHost.Adjustment) :=
  .adjust (.addLink ⟨"ns", ⟨6⟩⟩ "eth0") :: .adjust (.allowChanges true) ::
    selectTunnel "a" "tunnel" ++ [.operate "a" .register]

theorem other_unchanged_besideTunnel :
    let f := run MemoryHost.backend.recorded (start ⟨tunnelHost, []⟩)
      besideTunnel
    let d := { tunnelDevice 0 "tunnel" with
      devName := some "tun0", context := some ⟨0, "ns"⟩ }
    let before := f.host.host.links
    let after := (outcome (step MemoryHost.backend.recorded
      (.operate "a" (.bringUpDown true))) f).2.host.host.links
    tunnelHost.namespaces.stack = [] ∧ tunnelHost.probe = .current ∧
    (∀ next ∈ besideTunnel, next.keepsProbe = true) ∧
    stranded f.host.calls = [] ∧ f.devices.at? "a" = some d ∧
    before.Unambiguous ∧
    (before.link? ⟨"ns", ⟨5⟩⟩).map MemoryLink.name = d.devName ∧
    after.link? ⟨"ns", ⟨5⟩⟩ ≠ before.link? ⟨"ns", ⟨5⟩⟩ ∧
    after.link? ⟨"ns", ⟨6⟩⟩ = before.link? ⟨"ns", ⟨6⟩⟩ := by
  intro f d before after
  have outside : tunnelHost.namespaces.stack = [] := rfl
  have keeps : ∀ next ∈ besideTunnel, next.keepsProbe = true := by decide
  have returned : stranded f.host.calls = [] := by rfl
  have found : f.devices.at? "a" = some d := by rfl
  have unambiguous : before.Unambiguous := by decide +kernel
  have known : (before.link? ⟨"ns", ⟨5⟩⟩).map MemoryLink.name =
      d.devName := by decide +kernel
  obtain ⟨-, reaches⟩ :=
    changes_reach_known_name outside rfl besideTunnel keeps
  obtain ⟨-, unchanged⟩ := reaches "a" d (.bringUpDown true) returned found rfl
  refine ⟨outside, rfl, keeps, returned, found, unambiguous, known, ?_, ?_⟩
  · decide +kernel
  · exact unchanged unambiguous known _ (by decide)

/-- After that the tunnel is renamed, and the other interface gets the name
that it had. -/
def swapNames : List (FleetStep MemoryHost.Adjustment) :=
  besideTunnel ++
    [.adjust (.renameLink ⟨"ns", ⟨5⟩⟩ "tun1"),
      .adjust (.renameLink ⟨"ns", ⟨6⟩⟩ "tun0")]

/-- The device designates the tunnel and changes the other interface. -/
theorem other_changed_after_swapNames :
    let f := run MemoryHost.backend (start tunnelHost) swapNames
    let g := (outcome (step MemoryHost.backend
      (.operate "a" (.bringUpDown true))) f).2
    (∀ earlier, earlier <+: swapNames →
      let moment := run MemoryHost.backend (start tunnelHost) earlier
      moment.host.links.Unambiguous ∧ moment.host.namespaces.stack = []) ∧
    (f.devices.at? "a").map (fun d => (d.isRegistered, d.selected)) =
      some (true, ⟨"ns", ⟨5⟩⟩) ∧
    f.host.links.link? ⟨"ns", ⟨6⟩⟩ = some (.fresh "tun0") ∧
    g.host.links.link? ⟨"ns", ⟨6⟩⟩ =
      some { MemoryLink.fresh "tun0" with up := true } := by
  intro f g
  refine ⟨?_, by rfl, by rfl, by rfl⟩
  intro earlier begins
  simp only [swapNames, besideTunnel, selectTunnel, List.cons_append,
    List.nil_append, List.prefix_cons_iff, List.prefix_nil] at begins
  rcases begins with rfl | ⟨_, rfl, rfl | ⟨_, rfl, rfl | ⟨_, rfl, rfl |
    ⟨_, rfl, rfl | ⟨_, rfl, rfl | ⟨_, rfl, rfl | ⟨_, rfl, rfl |
      ⟨_, rfl, rfl⟩⟩⟩⟩⟩⟩⟩⟩ <;>
    exact ⟨by decide +kernel, by rfl⟩

end Fleet
end InterfaceManager

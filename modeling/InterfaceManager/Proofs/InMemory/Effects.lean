import InterfaceManager.Proofs.InMemory.Upkeep

/-!
# What the result of a change tells

A change through a device either is made, on the one interface with the name
that the device knows, or leaves all interfaces as they are.  The result tells
which of the two it was: it is made if and only if the result is good or
nothing but the switch back has failed.  A caller who reads any other result
may try again.
-/

namespace InterfaceManager

open InterfaceManager.Action

inductive LinkChange where
  | upDown (up : Bool)
  | address (address : LocalAddress)
  | route (route : Route)
  deriving DecidableEq, Repr

namespace LinkChange

/-- An interface after a change. -/
def apply : LinkChange → MemoryLink → MemoryLink
  | upDown up, link => { link with up }
  | address added, link =>
    { link with addresses := link.addresses ++ [added] }
  | route added, link => { link with routes := link.routes ++ [added] }

/-- The request for a change of the interface called `devName`. -/
def request (devName : String) : LinkChange → LinkRequest
  | upDown up => .setUp devName up
  | address added => .addAddress devName added
  | route added => .addRoute devName added

end LinkChange

/-- The change of its interface that an operation of a device makes. -/
def DeviceOperation.change? : DeviceOperation ε → Option LinkChange
  | bringUpDown up => some (.upDown up)
  | addAddress address length => some (.address ⟨address, length⟩)
  | addRoute destination length gateway =>
    some (.route ⟨destination, length, gateway⟩)
  | _ => none

/-- The result is good, or nothing but the switch back has failed. -/
def tellsEffect : Outcome Unit → Bool
  | .ok () => true
  | .error (.error (.namespaceRestore _ _ none)) => true
  | _ => false

/-- The error is one of those after which nothing has changed. -/
def Error.deniesEffect : Error → Bool
  | notRegistered _ | namespaceSwitch _ _ | unsupported _ | linkControl _ _ =>
    true
  | namespaceRestore _ _ primary => primary.isSome
  | _ => false

theorem tellsEffect_of_deniesEffect {e : Error}
    (denies : e.deniesEffect = true) :
    tellsEffect (.error (.error e)) = false := by
  cases e with
  | namespaceRestore netns message primary =>
    cases primary with
    | none => cases denies
    | some failure => rfl
  | _ => rfl

/-! ## Changes of the table -/

namespace LinkChange

variable {change : LinkChange} {netns devName : String}
  {known : Option String} {m m' : MemoryLinks} {result : Outcome Unit}

/-- The change has been made and recorded in `netns`, on the interface found
there under the known name. -/
def Made (change : LinkChange) (netns : String) (known : Option String)
    (m m' : MemoryLinks) : Prop :=
  ∃ key link, known = some link.name ∧
    m.named? netns link.name = some (key, link) ∧
    m' = (m.record netns (change.request link.name)).update key change.apply

/-- How a change ends: it is made and the result tells so, or it is denied
and the interfaces are as before. -/
inductive Ends (change : LinkChange) (netns : String) (known : Option String)
    (m : MemoryLinks) : Outcome Unit → MemoryLinks → Prop
  | made {result : Outcome Unit} {m' : MemoryLinks}
      (made : change.Made netns known m m')
      (tells : tellsEffect result = true) :
      Ends change netns known m result m'
  | denied {e : Error} {m' : MemoryLinks} (denies : e.deniesEffect = true)
      (same : m'.table = m.table) :
      Ends change netns known m (.error (.error e)) m'

/-- A change that is not switched back from ends well, or it is denied. -/
inductive EndsInside (change : LinkChange) (netns devName : String)
    (m : MemoryLinks) : Outcome Unit → MemoryLinks → Prop
  | made {m' : MemoryLinks} (made : change.Made netns (some devName) m m') :
      EndsInside change netns devName m (.ok ()) m'
  | denied {e : Error} {m' : MemoryLinks} (denies : e.deniesEffect = true)
      (same : m'.table = m.table) :
      EndsInside change netns devName m (.error (.error e)) m'

theorem EndsInside.ends (inside : change.EndsInside netns devName m result m') :
    change.Ends netns (some devName) m result m' := by
  cases inside with
  | made made => exact .made made rfl
  | denied denies same => exact .denied denies same

/-- A failed switch back does not hide how the change ended. -/
theorem EndsInside.restored {place message : String}
    (inside : change.EndsInside netns devName m result m') :
    change.Ends netns (some devName) m
      (Scope.ending result
        (.error (.error (.namespaceRestore place message none)))) m' := by
  cases inside with
  | made made => exact .made made rfl
  | denied denies same => exact .denied rfl same

/-- The table in memory makes a change or denies it. -/
theorem endsInside_change (change : LinkChange)
    (operation netns devName : String) (s : Session MemoryLinks) :
    let ran := outcome (MemoryLinks.change operation netns devName
      (change.request devName) change.apply) s
    change.EndsInside netns devName s.host ran.1 ran.2.host := by
  intro ran
  have running : ran = outcome (MemoryLinks.change operation netns devName
    (change.request devName) change.apply) s := rfl
  simp only [MemoryLinks.change, outcome_bind, outcome_modify,
    outcome_get] at running
  rw [running]
  split
  · rcases found : s.host.named? netns devName with _ | ⟨key, link⟩
    · have missing : (s.host.record netns (change.request devName)).named?
          netns devName = none := found
      simp only [outcome_bind, outcome_get, missing, outcome_fail]
      exact .denied rfl rfl
    · have present : (s.host.record netns (change.request devName)).named?
          netns devName = some (key, link) := found
      have called : key.netns = netns ∧ link.name = devName := by
        simpa using List.find?_some found
      obtain ⟨-, rfl⟩ := called
      simp only [outcome_bind, outcome_get, present, outcome_modify,
        Session.outcome_note]
      exact .made ⟨key, link, rfl, found, rfl⟩
  · exact .denied rfl rfl

end LinkChange

/-! ## Changes inside a namespace -/

namespace MemoryHost

variable {change : LinkChange} {devName netns : String}

/-- Wherever it is run, `act` makes the change of the interface called
`devName` there, or it is denied. -/
def Makes (change : LinkChange) (devName : String)
    (act : Action (Session MemoryHost) Unit) : Prop :=
  ∀ s, change.EndsInside s.host.callNamespace devName s.host.links
    (outcome act s).1 (outcome act s).2.host.links

theorem onLinks_makes (change : LinkChange) (operation devName : String) :
    Makes change devName (onLinks fun netns =>
      MemoryLinks.change operation netns devName (change.request devName)
        change.apply) := by
  intro s
  simp only [onLinks, outcome_bind, outcome_get, outcome_focus]
  exact change.endsInside_change operation s.host.callNamespace devName
    ⟨s.host.links, s.journal⟩

theorem Makes.noted {act : Action (Session MemoryHost) Unit}
    (makes : Makes change devName act) (n : Notice) :
    Makes change devName (do
      Session.note n
      act) :=
  fun s => makes (s.noting n)

/-- How a run inside a namespace goes: the switch in fails and the interfaces
are as before, or the action finds them as they were before, makes its calls
for the namespace, and the switch back leaves them as they are then. -/
theorem runInNamespace_cases {context : Context} {handle : Option Handle}
    (called : context.name = netns)
    (faithful : ∀ opened, handle = some opened → opened.name = netns)
    (operation : String) (act : Action (Session MemoryHost) α)
    (s : Session MemoryHost) :
    let ran := outcome
      (runInNamespace backend.provider context handle operation act) s
    (∃ place message,
      ran.1 = .error (.error (.namespaceSwitch place message)) ∧
      ran.2.host.links = s.host.links) ∨
    ∃ u back, u.host.callNamespace = s.host.callsFor netns ∧
      u.host.links = s.host.links ∧
      ran.1 = Scope.ending (outcome act u).1 back ∧
      ran.2.host.links = (outcome act u).2.host.links ∧
      (back = .ok () ∨ ∃ place message, back =
        .error (.error (.namespaceRestore place message none))) := by
  intro ran
  subst called
  have running : ran = outcome
    (runInNamespace backend.provider context handle operation act) s := rfl
  rcases named : context.isDefault with _ | _
  · have different : context.name ≠ "" := by
      simpa [Context.isDefault] using named
    rcases handle with _ | handle
    · rw [outcome_runInNamespace_closed _ _ _ _ named] at running
      rw [running]
      exact Or.inl ⟨_, _, rfl, rfl⟩
    · have same : handle.name = context.name := faithful handle rfl
      have untouched := unlessPending_keeps_links s.host.links .entering
        (MemoryNamespaces.enter handle)
        (s.noting (.switching context.name operation)) rfl
      rcases unlessPending_traffic .entering (handle.name :: ·)
          (fun s => MemoryNamespaces.enter_cases s handle)
          (s.noting (.switching context.name operation))
        with ⟨e, t, entering, -⟩ | ⟨t, entering, traffic⟩
      · rw [entering] at untouched
        rw [outcome_runInNamespace_refused _ _ _ _ handle named
          entering] at running
        rw [running]
        refine Or.inl ?_
        cases e <;> exact ⟨_, _, rfl, untouched⟩
      · rw [entering] at untouched
        have here : t.host.callNamespace = s.host.callsFor context.name := by
          rw [← same]
          exact callNamespace_of_entered (same ▸ different) traffic
        have left := unlessPending_keeps_links
          (outcome act t).2.host.links .exiting
          (MemoryNamespaces.exit (.detached handle.name))
          (outcome act t).2 rfl
        rw [outcome_runInNamespace_entered _ _ _ _ handle named
          entering] at running
        rw [running]
        refine Or.inr ⟨t, _, here, untouched, rfl, ?_, ?_⟩
        · dsimp only
          rw [Scope.host_restore]
          exact left
        · rw [Scope.outcome_restore]
          rcases (backend_calm.answers.exit
              (.detached handle.name)).cases (outcome act t).2
            with ⟨⟨⟩, u, leaving⟩ | ⟨e, u, leaving⟩
          · rw [leaving]
            exact Or.inl rfl
          · rw [leaving]
            exact Or.inr
              ⟨_, _, congrArg _ (congrArg _ (Scope.restoreError_eq _ e))⟩
  · have default : context.name = "" := by
      simpa [Context.isDefault] using named
    rw [outcome_runInNamespace_default _ _ _ _ handle named] at running
    rw [running, default]
    exact Or.inr ⟨s, .ok (), callNamespace_eq_callsFor s.host, rfl,
      (Scope.ending_ok _).symm, rfl, Or.inl rfl⟩

/-- Inside a namespace a change is made or denied as it is outside, unless
the switch in fails; and a failed switch back does not hide it. -/
theorem runInNamespace_ends {context : Context} {handle : Option Handle}
    (called : context.name = netns)
    (faithful : ∀ opened, handle = some opened → opened.name = netns)
    (operation : String) {act : Action (Session MemoryHost) Unit}
    (makes : Makes change devName act) (s : Session MemoryHost) :
    let ran := outcome
      (runInNamespace backend.provider context handle operation act) s
    change.Ends (s.host.callsFor netns) (some devName) s.host.links ran.1
      ran.2.host.links := by
  intro ran
  rcases runInNamespace_cases called faithful operation act s
    with ⟨place, message, refused, same⟩ |
      ⟨u, back, here, links, ended, left, switched⟩
  · rw [show ran.1 = _ from refused]
    exact .denied rfl (congrArg MemoryLinks.table same)
  · have inside := makes u
    rw [here, links] at inside
    rw [show ran.1 = _ from ended, show ran.2.host.links = _ from left]
    rcases switched with rfl | ⟨place, message, rfl⟩
    · rw [Scope.ending_ok]
      exact inside.ends
    · exact inside.restored

end MemoryHost

/-! ## Changes through a device -/

namespace Device

variable {d : Device MemoryHost.Adjustment}

/-- A change through a device is made, in the namespace of the device and on
the interface it knows by name, or it is denied.  Nothing else than the
session changes. -/
theorem onInterface_ends {m : Manager MemoryHost}
    (leads : ∀ context, d.context = some context →
      m.contexts.LeadsTo context d.netnsKey)
    (operation : String) {change : LinkChange}
    {act : String → Action (Session MemoryHost) Unit}
    (makes : ∀ devName, MemoryHost.Makes change devName (act devName)) :
    ∃ result t,
      outcome (d.onInterface MemoryHost.backend operation act) m =
        (result, m.withSession t) ∧
      change.Ends (m.session.host.callsFor d.netnsKey) d.devName
        m.session.host.links result t.host.links := by
  rcases bound : d.context with _ | context
  · exact ⟨_, m.session, outcome_onInterface_unbound _ operation act m bound,
      .denied rfl rfl⟩
  · rcases known : d.devName with _ | devName
    · refine ⟨.error (.error (.notRegistered d.name)), m.session, ?_,
        .denied rfl rfl⟩
      simp only [onInterface, bound, known]
      rfl
    · obtain ⟨span, running⟩ := outcome_onInterface_bound
        MemoryHost.backend operation act m bound known
      obtain ⟨called, faithful⟩ := leads context bound
      rw [Manager.outcome_within] at running
      have ended := MemoryHost.runInNamespace_ends called faithful
        operation (makes devName) (m.session.enterSpan span)
      exact ⟨_, _, running, ended⟩

end Device

namespace DeviceState

/-- An operation that changes the interface of a device does so as the result
tells, and leaves the device and the books of the manager alone. -/
theorem perform_ends {s : DeviceState MemoryHost MemoryHost.Adjustment}
    (leads : ∀ context, s.device.context = some context →
      s.manager.contexts.LeadsTo context s.device.netnsKey)
    {operation : DeviceOperation MemoryHost.Adjustment}
    {change : LinkChange} (changes : operation.change? = some change) :
    ∃ result t,
      outcome (perform MemoryHost.backend operation) s =
        (result, { s with manager := s.manager.withSession t }) ∧
      change.Ends (s.manager.session.host.callsFor s.device.netnsKey)
        s.device.devName s.manager.session.host.links result t.host.links := by
  have through : ∀ name {act : String → Action (Session MemoryHost) Unit},
      (∀ devName, MemoryHost.Makes change devName (act devName)) →
      ∃ result t,
        outcome (onInterface fun device => device.onInterface
          MemoryHost.backend name act) s =
            (result, { s with manager := s.manager.withSession t }) ∧
        change.Ends (s.manager.session.host.callsFor s.device.netnsKey)
          s.device.devName s.manager.session.host.links result
          t.host.links := by
    intro name act makes
    obtain ⟨result, t, running, ended⟩ :=
      Device.onInterface_ends leads name makes
    refine ⟨result, t, ?_, ended⟩
    rw [onInterface, outcome_bind, outcome_getDevice]
    simp only [outcome_onManager, running]
  cases operation with
  | bringUpDown up =>
    cases changes
    apply through "bring_up_down"
    intro devName
    exact (MemoryHost.onLinks_makes _ "set_up" devName).noted _
  | addAddress address length =>
    cases changes
    apply through "add_address"
    intro devName
    exact (MemoryHost.onLinks_makes _ "add_address" devName).noted _
  | addRoute destination length gateway =>
    cases changes
    apply through "add_route"
    intro devName
    exact (MemoryHost.onLinks_makes _ "add_route" devName).noted _
  | _ => cases changes

end DeviceState

namespace MemoryLinks

variable {m : MemoryLinks} {key : LinkKey} {link : MemoryLink}

/-- Changing the interface at a key changes one entry of the table. -/
theorem Keyed.table_update (keyed : m.Keyed) (member : (key, link) ∈ m.table)
    (f : MemoryLink → MemoryLink) :
    (m.update key f).table = m.table.map fun entry =>
      if entry = (key, link) then (key, f link) else entry := by
  apply List.map_congr_left
  rintro ⟨here, other⟩ present
  by_cases same : here = key
  · subst same
    have single := keyed.eq_of_key_eq present member rfl
    rw [single]
    simp
  · simp [same]

/-- Under an unambiguous name there is one interface at most. -/
theorem Unambiguous.eq_of_named (unambiguous : m.Unambiguous)
    (keyed : m.Keyed) {netns : String}
    (found : m.named? netns link.name = some (key, link)) :
    (key, link) ∈ m.table ∧ key.netns = netns ∧
      ∀ other ∈ m.table, other.1.netns = netns → other.2.name = link.name →
        other = (key, link) := by
  have member : (key, link) ∈ m.table := List.mem_of_find?_eq_some found
  have here : key.netns = netns := by
    have both : key.netns = netns ∧ link.name = link.name := by
      simpa using List.find?_some found
    exact both.1
  refine ⟨member, here, ?_⟩
  intro other present place name
  have same := unambiguous other present _ member (place.trans here.symm) name
  exact keyed.eq_of_key_eq present member same

end MemoryLinks

namespace Fleet

/-- Whatever has happened before, the result of a change through a device
tells whether it has been made.  If the result is good, or nothing but the
switch back has failed, then one interface has the name that the device knows
in the namespace where the call was made, and it alone has changed, as it
should.  After any other result, which is an error of a few kinds, the table
is as before.  The device, the registry and the pool are never touched. -/
theorem run_tells_effects {host : MemoryHost} (keyed : host.links.Keyed)
    (steps : List (FleetStep MemoryHost.Adjustment)) :
    let f := run MemoryHost.backend (start host) steps
    ∀ label d operation change, f.devices.at? label = some d →
      operation.change? = some change → f.host.links.Unambiguous →
      let done := outcome
        (step MemoryHost.backend (.operate label operation)) f
      let before := f.host.links
      let after := done.2.host.links
      (tellsEffect done.1 = true →
        ∃ key link, (key, link) ∈ before.table ∧
          key.netns = f.host.callsFor d.netnsKey ∧
          d.devName = some link.name ∧
          (∀ other ∈ before.table, other.1.netns = key.netns →
            other.2.name = link.name → other = (key, link)) ∧
          after.table = (before.table.map fun entry =>
            if entry = (key, link) then (key, change.apply link)
            else entry) ∧
          after.calls = before.calls ++
            [⟨key.netns, change.request link.name⟩]) ∧
      (tellsEffect done.1 = false → after.table = before.table ∧
        ∃ e, done.1 = .error (.error e) ∧ e.deniesEffect = true) ∧
      (∀ other, done.2.devices.at? other = f.devices.at? other) ∧
      done.2.manager.registry = f.manager.registry ∧
      done.2.manager.pool = f.manager.pool ∧
      done.2.manager.contexts = f.manager.contexts := by
  intro f label d operation change found changes unambiguous done before after
  have answers : MemoryHost.backend.Answers := MemoryHost.backend_calm.answers
  have sound : f.Sound MemoryHost.backend :=
    (run_follows answers (sound_start _ host) steps).sound
  have tracks : f.manager.Tracks :=
    run_keeps_lasting Manager.Tracks.lasting (Manager.Tracks.start host) steps
  have unique : before.Keyed :=
    run_keeps_lasting MemoryHost.lasting_keyed (f := start host) keyed steps
  have leads : ∀ context, d.context = some context →
      f.manager.contexts.LeadsTo context d.netnsKey := by
    intro context bound
    apply tracks.faithful.leadsTo tracks.sound
    exact (sound.select found).leased.held d List.mem_cons_self context bound
  obtain ⟨result, t, performing, ended⟩ :=
    DeviceState.perform_ends (s := f.working d) leads changes
  have stepped : done = (result, f.worked label
      ⟨f.manager.withSession t, d, f.reports⟩) := by
    rw [show done = _ from outcome_step_operate found operation, performing]
    rfl
  have links : after = t.host.links :=
    congrArg (fun ran => ran.2.host.links) stepped
  rw [links, stepped]
  refine ⟨?_, ?_, Labelled.at?_put_self found, rfl, rfl, rfl⟩
  · intro tells
    cases ended with
    | made made _ =>
      obtain ⟨key, link, name, named, changed⟩ := made
      obtain ⟨member, here, single⟩ := unambiguous.eq_of_named unique named
      refine ⟨key, link, member, here, name, ?_, ?_, ?_⟩
      · rw [here]
        exact single
      · rw [changed]
        exact unique.table_update member change.apply
      · rw [changed, here]
        rfl
    | denied denies _ =>
      rw [tellsEffect_of_deniesEffect denies] at tells
      cases tells
  · intro silent
    cases ended with
    | made _ tells =>
      rw [tells] at silent
      cases silent
    | denied denies same => exact ⟨same, _, rfl, denies⟩

/-- Beside the tunnel there is another interface, and the namespace of both
can be entered but not left. -/
def lockedIn : List (FleetStep MemoryHost.Adjustment) :=
  besideTunnel ++ [.adjust (.failExit "ns")]

/-- The tunnel is up although the switch back has failed. -/
theorem told_when_lockedIn :
    let f := run MemoryHost.backend (start tunnelHost) lockedIn
    let d := { tunnelDevice 0 "tunnel" with
      devName := some "tun0", context := some ⟨0, "ns"⟩ }
    let done := outcome
      (step MemoryHost.backend (.operate "a" (.bringUpDown true))) f
    tunnelHost.links.Keyed ∧ f.devices.at? "a" = some d ∧
    f.host.links.Unambiguous ∧
    done.1 =
      .error (.error (.namespaceRestore "ns" "Invalid argument" none)) ∧
    ∃ key link, (key, link) ∈ f.host.links.table ∧ key.netns = "ns" ∧
      d.devName = some link.name ∧
      done.2.host.links.table = f.host.links.table.map fun entry =>
        if entry = (key, link) then (key, { link with up := true })
        else entry := by
  intro f d done
  have keyed : tunnelHost.links.Keyed := by decide +kernel
  have found : f.devices.at? "a" = some d := by rfl
  have unambiguous : f.host.links.Unambiguous := by decide +kernel
  have told : done.1 =
      .error (.error (.namespaceRestore "ns" "Invalid argument" none)) := by
    rfl
  obtain ⟨made, -⟩ := run_tells_effects keyed lockedIn "a" d
    (.bringUpDown true) (.upDown true) found rfl unambiguous
  obtain ⟨key, link, member, here, name, -, table, -⟩ :=
    made (by rw [told]; rfl)
  exact ⟨keyed, found, unambiguous, told, key, link, member, here, name, table⟩

end Fleet
end InterfaceManager

import InterfaceManager.Proofs.InMemory.Registering
import InterfaceManager.Proofs.Namespace.Accounts

/-!
# Registrations commute

Registering or unregistering one device and then another one comes to the
same in either order, also if both share a namespace or an interface and if
one of the operations fails.  On the way there the pool may create, share and
destroy the context of the namespace at different moments.  But what it holds
in the end is decided by the devices that are registered, and so is what the
registry says.
-/

namespace InterfaceManager

open InterfaceManager.Action

namespace Device

theorem isRegistered_plain (d : Device ε) :
    d.plain.isRegistered = d.isRegistered := by
  rw [isRegistered, isRegistered, plain, Option.isSome_map]

theorem entry_plain (d : Device ε) : d.plain.entry = d.entry := by
  rw [entry, entry, record, record, isRegistered_plain]
  rfl

theorem uses_plain (d : Device ε) (name : String) :
    d.plain.uses name = d.uses name := by
  rw [uses, uses, isRegistered_plain]
  rfl

end Device

namespace Labelled

variable {entries others : Labelled α}

theorem at?_of_mem (nodup : (entries.map Prod.fst).Nodup) {label : String}
    {a : α} (member : (label, a) ∈ entries) : entries.at? label = some a := by
  have found : (entries.at? label).isSome = true := by
    rw [at?, Option.isSome_map, List.find?_isSome]
    exact ⟨_, member, by simp⟩
  obtain ⟨b, hb⟩ := Option.isSome_iff_exists.mp found
  have same := List.inj_on_of_nodup_map nodup (mem_of_at? hb) member rfl
  rw [hb, (Prod.mk.inj same).2]

/-- Entries under distinct labels are decided, but for their order, by what
is found under the labels. -/
theorem perm_of_at?_eq (nodup : (entries.map Prod.fst).Nodup)
    (nodup' : (others.map Prod.fst).Nodup)
    (same : ∀ label, entries.at? label = others.at? label) :
    entries.Perm others := by
  apply (List.perm_ext_iff_of_nodup nodup.of_map nodup'.of_map).mpr
  rintro ⟨label, a⟩
  constructor
  · intro member
    apply mem_of_at?
    rw [← same, at?_of_mem nodup member]
  · intro member
    apply mem_of_at?
    rw [same, at?_of_mem nodup' member]

end Labelled

/-- Registries that list the same have the same records. -/
theorem Registry.Lists.records_eq {r s : Registry}
    {entries : List (DeviceId × DeviceRecord)} (first : r.Lists entries)
    (second : s.Lists entries) : r.records = s.records := by
  have ordered := List.pairwise_map.mp first.ordered
  have ordered' := List.pairwise_map.mp second.ordered
  apply (first.perm.trans second.perm.symm).eq_of_pairwise _ ordered ordered'
  intro a b _ _ before after
  exact absurd after (Nat.lt_asymm before)

namespace Pool

variable {contexts contexts' : Contexts} {p q : Pool}

/-- Pools with the same users have the same names and the same counts. -/
theorem Sound.refcount?_congr (sound : p.Sound contexts)
    (sound' : q.Sound contexts')
    (users : ∀ name, p.users name = q.users name) (name : String) :
    p.refcount? name = q.refcount? name := by
  rw [sound.refcount?_eq, sound'.refcount?_eq, users]

theorem Sound.names_congr (sound : p.Sound contexts)
    (sound' : q.Sound contexts')
    (users : ∀ name, p.users name = q.users name) : p.names = q.names := by
  have sorted := sound.pairwise_names
  have sorted' := sound'.pairwise_names
  have perm : p.names.Perm q.names := by
    apply (List.perm_ext_iff_of_nodup sorted.nodup sorted'.nodup).mpr
    intro name
    rw [mem_names_iff, mem_names_iff, sound.refcount?_congr sound' users]
  apply perm.eq_of_pairwise _ sorted sorted'
  intro a b _ _ before after
  exact absurd after (String.lt_asymm before)

end Pool

namespace Fleet

variable {backend : Backend η ε} {f g : Fleet η ε}

/-- The devices of both fleets are the same, but for the identities of their
contexts. -/
def SameDevices (f g : Fleet η ε) : Prop :=
  ∀ label, (f.devices.at? label).map Device.plain =
    (g.devices.at? label).map Device.plain

theorem SameDevices.perm (same : f.SameDevices g) (sound : f.Sound backend)
    (sound' : g.Sound backend) :
    (f.live.map Device.plain).Perm (g.live.map Device.plain) := by
  let view (entry : String × Device ε) : String × Device ε :=
    (entry.1, entry.2.plain)
  have labels : ∀ h : Fleet η ε, h.Sound backend →
      ((h.devices.map view).map Prod.fst).Nodup := by
    intro h sound
    rw [List.map_map]
    exact sound.labels
  have perm : (f.devices.map view).Perm (g.devices.map view) := by
    apply Labelled.perm_of_at?_eq (labels f sound) (labels g sound')
    intro label
    rw [Labelled.at?_map, Labelled.at?_map]
    exact same label
  have values := perm.map Prod.snd
  rw [List.map_map, List.map_map] at values
  rw [live, live, List.map_map, List.map_map]
  exact values

/-- The devices decide about the registry and about the pool. -/
theorem SameDevices.books (same : f.SameDevices g) (sound : f.Sound backend)
    (sound' : g.Sound backend)
    (next : f.manager.registry.next = g.manager.registry.next) :
    f.manager.registry = g.manager.registry ∧
      f.manager.pool.names = g.manager.pool.names ∧
      ∀ name, f.manager.pool.refcount? name =
        g.manager.pool.refcount? name := by
  have perm := same.perm sound sound'
  have entries : (f.live.map Device.entry).Perm (g.live.map Device.entry) := by
    have both := perm.map Device.entry
    rw [List.map_map, List.map_map] at both
    simpa only [Function.comp_def, Device.entry_plain] using both
  have users : ∀ name, f.manager.pool.users name =
      g.manager.pool.users name := by
    intro name
    have both := perm.countP_eq (Device.uses name)
    rw [List.countP_map, List.countP_map] at both
    rw [sound.books.leased.users, sound'.books.leased.users]
    simpa only [Function.comp_def, Device.uses_plain] using both
  have records := (sound.books.listed.of_perm entries).records_eq
    sound'.books.listed
  refine ⟨?_, ?_, ?_⟩
  · rcases registry : f.manager.registry with ⟨number, kept⟩
    rcases registry' : g.manager.registry with ⟨number', kept'⟩
    rw [registry, registry'] at next records
    cases next
    cases records
    rfl
  · exact sound.books.leased.sound.names_congr sound'.books.leased.sound users
  · exact sound.books.leased.sound.refcount?_congr
      sound'.books.leased.sound users

end Fleet

/-! ## Single steps -/

namespace Fleet

variable {f g : Fleet MemoryHost MemoryHost.Adjustment} {label : String}
  {d : Device MemoryHost.Adjustment}
  {operation : DeviceOperation MemoryHost.Adjustment}

/-- The books of the fleet are sound and its host is calm. -/
structure Ready (f : Fleet MemoryHost MemoryHost.Adjustment) : Prop where
  sound : f.Sound MemoryHost.backend
  tracks : f.manager.Tracks
  calm : f.host.Calm

/-- For the device under `label` it has gone as it was decided. -/
structure Settles (f : Fleet MemoryHost MemoryHost.Adjustment)
    (label : String) (decided : Settlement MemoryHost.Adjustment)
    (result : Outcome Unit) (g : Fleet MemoryHost MemoryHost.Adjustment) :
    Prop where
  result : result = decided.result
  device : (g.devices.at? label).map Device.plain = some decided.device.plain
  others : ∀ other, other ≠ label →
    g.devices.at? other = f.devices.at? other
  host : ∃ opens, g.host = f.host.charged decided.toll opens
  next : g.manager.registry.next = f.manager.registry.next
  reports : g.reports = f.reports

/-- What the host has been charged before makes no difference. -/
theorem settlement_charged (h : MemoryHost) (toll : Toll) (opens : Nat)
    (d : Device MemoryHost.Adjustment)
    (operation : DeviceOperation MemoryHost.Adjustment) :
    d.settlement (h.charged toll opens) operation =
      d.settlement h operation := by
  cases operation <;> rfl

theorem Ready.operate (ready : f.Ready)
    (found : f.devices.at? label = some d)
    (kind : operation ∈ [DeviceOperation.register, .unregister]) :
    let ran := outcome
      (step MemoryHost.backend (.operate label operation)) f
    f.Settles label (d.settlement f.host operation) ran.1 ran.2 ∧
      ran.2.Ready := by
  intro ran
  have answers : MemoryHost.backend.Answers := MemoryHost.backend_calm.answers
  let performed := outcome
    (DeviceState.perform MemoryHost.backend operation) (f.working d)
  have settles : DeviceState.Settles (f.working d)
      (d.settlement f.host operation) performed.1 performed.2 := by
    rcases List.mem_pair.mp kind with rfl | rfl
    · exact DeviceState.register_settles (s := f.working d) ready.tracks
        ready.calm
    · exact DeviceState.unregister_settles (s := f.working d)
        (ready.sound.select found)
  have stepped : ran = (performed.1, f.worked label performed.2) :=
    outcome_step_operate found operation
  have settled : f.Settles label (d.settlement f.host operation)
      ran.1 ran.2 := by
    rw [stepped]
    constructor
    · exact settles.result
    · rw [worked, Labelled.at?_put]
      exact congrArg some settles.device
    · intro other different
      exact Labelled.at?_put_of_ne _ different _
    · exact settles.host
    · exact settles.next
    · exact settles.reports
  refine ⟨settled, ?_, ?_, ?_⟩
  · obtain ⟨_, _, stepping, follows, -⟩ :=
      step_follows answers ready.sound (.operate label operation)
    rw [show ran = _ from stepping]
    exact follows.sound
  · exact step_keeps_lasting Manager.Tracks.lasting _ f ready.tracks
  · obtain ⟨opens, paid⟩ := settled.host
    rw [paid]
    exact ready.calm.charged _ _

/-! ## Two steps -/

/-- The fleets are the same but for the identities of contexts, the number of
handles opened, the order of the calls on record and the notices. -/
structure Alike (f g : Fleet MemoryHost MemoryHost.Adjustment) : Prop where
  devices : f.SameDevices g
  registry : f.manager.registry = g.manager.registry
  names : f.manager.pool.names = g.manager.pool.names
  refcounts : ∀ name,
    f.manager.pool.refcount? name = g.manager.pool.refcount? name
  table : f.host.links.table = g.host.links.table
  calls : f.host.links.calls.Perm g.host.links.calls
  changesAllowed : f.host.links.changesAllowed = g.host.links.changesAllowed
  namespaces : { f.host.namespaces with opens := 0 } =
    { g.host.namespaces with opens := 0 }
  pending : f.host.pending = g.host.pending
  probe : f.host.probe = g.host.probe
  reports : f.reports = g.reports

/-- Fleets with the same devices are alike if their hosts have been charged
the same, in whatever order. -/
theorem Alike.of_charged (ready : f.Ready) (ready' : g.Ready)
    (devices : f.SameDevices g)
    (next : f.manager.registry.next = g.manager.registry.next)
    {h : MemoryHost} {first second : Toll} {opens more opens' more' : Nat}
    (host : f.host = (h.charged first opens).charged second more)
    (host' : g.host = (h.charged second opens').charged first more')
    (reports : f.reports = g.reports) : f.Alike g := by
  obtain ⟨registry, names, refcounts⟩ :=
    devices.books ready.sound ready'.sound next
  have calls : f.host.links.calls.Perm g.host.links.calls := by
    rw [host, host']
    simp only [MemoryHost.charged, List.append_assoc]
    exact (List.perm_append_comm).append_left _
  have namespaces : { f.host.namespaces with opens := 0 } =
      { g.host.namespaces with opens := 0 } := by
    rw [host, host']
    simp only [MemoryHost.charged, Nat.add_right_comm]
  refine ⟨devices, registry, names, refcounts, ?_, calls, ?_, namespaces,
    ?_, ?_, reports⟩ <;>
  · rw [host, host']
    rfl

/-- Wherever a run has led, registering or unregistering two devices ends the
same for each of them in either order, and in fleets that are alike: as long
as the thread is in the default namespace, everything entered can be left and
no call is bound to fail once. -/
theorem run_registrations_commute (host : MemoryHost)
    (steps : List (FleetStep MemoryHost.Adjustment)) :
    let f := run MemoryHost.backend (start host) steps
    let perform (label : String)
        (operation : DeviceOperation MemoryHost.Adjustment)
        (g : Fleet MemoryHost MemoryHost.Adjustment) :=
      outcome (step MemoryHost.backend (.operate label operation)) g
    f.host.Calm → ∀ label label' d d' operation operation', label ≠ label' →
      f.devices.at? label = some d → f.devices.at? label' = some d' →
      operation ∈ [DeviceOperation.register, .unregister] →
      operation' ∈ [DeviceOperation.register, .unregister] →
      let first := perform label operation f
      let second := perform label' operation' first.2
      let first' := perform label' operation' f
      let second' := perform label operation first'.2
      first.1 = second'.1 ∧ second.1 = first'.1 ∧
        second.2.Alike second'.2 := by
  intro f perform calm label label' d d' operation operation' distinct found
    found' kind kind' first second first' second'
  have ready : f.Ready :=
    ⟨(run_follows MemoryHost.backend_calm.answers (sound_start _ host)
        steps).sound,
      run_keeps_lasting Manager.Tracks.lasting (Manager.Tracks.start host)
        steps,
      calm⟩
  obtain ⟨settles, readyA⟩ := ready.operate found kind
  obtain ⟨settles', readyB⟩ := ready.operate found' kind'
  obtain ⟨opens, paid⟩ := settles.host
  obtain ⟨opens', paid'⟩ := settles'.host
  obtain ⟨later, readyAB⟩ := readyA.operate
    ((settles.others label' distinct.symm).trans found') kind'
  obtain ⟨later', readyBA⟩ := readyB.operate
    ((settles'.others label distinct).trans found) kind
  -- The host decides in the second step as it would have in the first one.
  rw [paid, settlement_charged] at later
  rw [paid', settlement_charged] at later'
  obtain ⟨more, paid_more⟩ := later.host
  obtain ⟨more', paid_more'⟩ := later'.host
  refine ⟨settles.result.trans later'.result.symm,
    later.result.trans settles'.result.symm, ?_⟩
  have devices : second.2.SameDevices second'.2 := by
    intro other
    by_cases here : other = label
    · subst here
      rw [later.others _ distinct, settles.device, later'.device]
    · by_cases there : other = label'
      · subst there
        rw [later.device, later'.others _ here, settles'.device]
      · rw [later.others _ there, settles.others _ here,
          later'.others _ here, settles'.others _ there]
  apply Alike.of_charged readyAB readyBA devices
  · rw [later.next, settles.next, later'.next, settles'.next]
  · rw [paid_more, paid]
  · rw [paid_more', paid']
  · rw [later.reports, settles.reports, later'.reports, settles'.reports]

/-- If the only device of a namespace leaves it and another one comes, then in
one order the context is destroyed and created again, and in the other order
it is shared. -/
theorem commutes_on_shareTunnel :
    let f := run MemoryHost.backend (start tunnelHost) shareTunnel
    let perform (label : String)
        (operation : DeviceOperation MemoryHost.Adjustment)
        (g : Fleet MemoryHost MemoryHost.Adjustment) :=
      outcome (step MemoryHost.backend (.operate label operation)) g
    let first := perform "a" .unregister f
    let second := perform "b" .register first.2
    let first' := perform "b" .register f
    let second' := perform "a" .unregister first'.2
    (second.2.devices.at? "b").bind Device.context = some ⟨1, "ns"⟩ ∧
    (second'.2.devices.at? "b").bind Device.context = some ⟨0, "ns"⟩ ∧
    first.1 = second'.1 ∧ second.1 = first'.1 ∧
    second.2.Alike second'.2 := by
  intro f perform first second first' second'
  have calm : f.host.Calm := ⟨by rfl, by rfl, by rfl⟩
  have found : f.devices.at? "a" = some { tunnelDevice 0 "first" with
      devName := some "tun0", context := some ⟨0, "ns"⟩ } := by rfl
  have found' : f.devices.at? "b" = some (tunnelDevice 1 "second") := by rfl
  refine ⟨by rfl, by rfl, ?_⟩
  exact run_registrations_commute tunnelHost shareTunnel calm "a" "b" _ _
    .unregister .register (by decide) found found'
    (List.mem_pair.mpr (.inr rfl)) (List.mem_pair.mpr (.inl rfl))

end Fleet
end InterfaceManager

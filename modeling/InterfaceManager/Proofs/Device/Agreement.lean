import InterfaceManager.Proofs.Device.Fleet

/-!
# Pool, registry and devices agree

What the books say after any number of steps, put in terms of the devices
alone: who uses a namespace, which context a registered device holds, what
the registry lists, and when a registration warns about other devices.
-/

namespace InterfaceManager

open InterfaceManager.Action

namespace Pool.Leased

variable {contexts : Contexts} {p : Pool} {devices : List (Device ε)}

/-- A namespace is tracked exactly while devices are registered in it, with
their number. -/
theorem refcount?_eq_some_iff (leased : Leased contexts p devices)
    (name : String) (count : Nat) :
    p.refcount? name = some count ↔
      1 ≤ count ∧ count = devices.countP (Device.uses name) := by
  rw [leased.sound.refcount?_eq, leased.users]
  constructor
  · intro tracked
    split at tracked
    · cases tracked
    · cases tracked
      omega
  · rintro ⟨positive, rfl⟩
    have used : ¬ devices.countP (Device.uses name) = 0 := by omega
    simp [used]

theorem refcount?_eq_none_iff (leased : Leased contexts p devices)
    (name : String) :
    p.refcount? name = none ↔ ∀ d ∈ devices, d.uses name = false := by
  rw [leased.sound.refcount?_eq, leased.users]
  simp only [ite_eq_left_iff, reduceCtorEq, imp_false, not_not,
    List.countP_eq_zero, Bool.not_eq_true]

/-- Without registered devices the pool is empty. -/
theorem isEmpty (leased : Leased contexts p devices)
    (unregistered : ∀ d ∈ devices, d.isRegistered = false) :
    p.isEmpty = true := by
  obtain ⟨leases⟩ := p
  rcases leases with _ | ⟨⟨name, lease⟩, rest⟩
  · rfl
  · have untracked : ∀ d ∈ devices, d.uses name = false := by
      intro d hd
      simp [Device.uses, unregistered d hd]
    have missing := (leased.refcount?_eq_none_iff name).mpr untracked
    rw [refcount?, lease?_cons, if_pos rfl] at missing
    cases missing

end Pool.Leased

/-! ## Sound registries -/

namespace Registry.Lists

variable {r : Registry} {devices : List (Device ε)}

theorem get?_device (lists : r.Lists (devices.map Device.entry))
    {d : Device ε} (hd : d ∈ devices) : r.get? d.id = some d.record :=
  lists.get?_eq_some_iff.mpr (List.mem_map.mpr ⟨d, hd, rfl⟩)

theorem record_binding_beq (d : Device ε) (binding : Binding) :
    (d.record.binding == some binding) =
      (d.isRegistered && d.selected == binding) := by
  cases hregistered : d.isRegistered <;> simp [Device.record, hregistered]

/-- The devices bound to an interface are the ones registered there. -/
theorem boundTo_perm (lists : r.Lists (devices.map Device.entry))
    (binding : Binding) :
    (r.boundTo binding).Perm
      ((devices.filter fun d => d.isRegistered && d.selected == binding).map
        Device.id) := by
  have perm := (lists.perm.filter fun entry =>
    entry.2.binding == some binding).map Prod.fst
  simp only [List.filter_map, List.map_map, Function.comp_def, Device.entry,
    record_binding_beq] at perm
  exact perm

/-- The identities are those of the live devices in the order in which they
were handed out. -/
theorem ids_eq_filter (lists : r.Lists (devices.map Device.entry))
    {given : List DeviceId}
    (ordered : given.Pairwise fun a b => a.number < b.number)
    (known : ∀ d ∈ devices, d.id ∈ given) :
    r.ids = given.filter fun id => devices.any fun d => d.id == id := by
  have distinct : ∀ {l : List DeviceId},
      l.Pairwise (fun a b => a.number < b.number) → l.Nodup := by
    intro l hl
    refine hl.imp ?_
    rintro a _ hlt rfl
    exact Nat.lt_irrefl _ hlt
  have filtered : (given.filter fun id =>
      devices.any fun d => d.id == id).Pairwise fun a b =>
        a.number < b.number :=
    ordered.sublist List.filter_sublist
  have perm : r.ids.Perm (given.filter fun id =>
      devices.any fun d => d.id == id) := by
    rw [List.perm_ext_iff_of_nodup (distinct lists.ordered)
      (distinct filtered)]
    intro id
    rw [lists.mem_ids_iff, List.mem_filter, List.any_eq_true]
    constructor
    · rintro ⟨record, hmem⟩
      obtain ⟨d, hd, hentry⟩ := List.mem_map.mp hmem
      have hid : d.id = id := congrArg Prod.fst hentry
      subst hid
      exact ⟨known d hd, d, hd, beq_self_eq_true _⟩
    · rintro ⟨-, d, hd, hid⟩
      have hid : d.id = id := by simpa using hid
      subst hid
      exact ⟨d.record, List.mem_map.mpr ⟨d, hd, rfl⟩⟩
  refine perm.eq_of_pairwise ?_ lists.ordered filtered
  intro a b _ _ hab hba
  exact absurd (Nat.lt_trans hab hba) (Nat.lt_irrefl _)

/-- The devices that share the interface of an unregistered device. -/
theorem length_boundTo_selected {d : Device ε}
    (lists : r.Lists ((d :: devices).map Device.entry))
    (unbound : d.context = none) :
    (r.boundTo d.selected).length =
      devices.countP fun e => e.isRegistered && e.selected == d.selected := by
  have unregistered := Device.isRegistered_eq_false unbound
  rw [lists.length_boundTo, List.countP_map]
  simp only [Function.comp_def, Device.entry, record_binding_beq]
  simp [unregistered]

end Registry.Lists

/-- A successful registration warns about the other devices on its
interface, if there are any, and then reports itself. -/
theorem DeviceState.remarks_register {backend : Backend η ε}
    {s t : DeviceState η ε} {rest : List (Device ε)}
    (answers : backend.Answers)
    (sound : s.manager.Sound backend (s.device :: rest))
    (registering : outcome (register backend) s = (.ok (), t)) :
    ∃ devName, t.device.devName = some devName ∧
      (backend.Discreet → t.manager.session.remarks =
        s.manager.session.remarks ++
          Manager.warning devName (rest.countP fun e =>
            e.isRegistered && e.selected == s.device.selected) ++
          [.lifecycle s.device.name (.registered devName s.device.ifindex
            s.device.netnsKey)]) := by
  rcases hcontext : s.device.context with _ | held
  · rcases register_cases answers sound hcontext
      with ⟨context, devName, m, -, succeeded, -, registry, remarks⟩ |
        ⟨e, m, failed, -⟩
    · rw [succeeded] at registering
      cases registering
      refine ⟨devName, rfl, fun discreet => ?_⟩
      have bound := Manager.remarks_bound m s.device devName
      rw [remarks discreet, registry,
        sound.listed.length_boundTo_selected hcontext] at bound
      exact bound
    · rw [failed] at registering
      cases registering
  · rw [outcome_register_registered backend
      (Device.isRegistered_eq_true hcontext)] at registering
    cases registering

/-! ## After any run -/

namespace Fleet

/-- A host with an interface in a namespace of its own. -/
def tunnelHost : MemoryHost :=
  .ofParts (.ofNames ["ns"]) (MemoryLinks.empty.add ⟨"ns", ⟨5⟩⟩ "tun0")
    .current

/-- Allocates a device that selects the interface of `tunnelHost`. -/
def selectTunnel (label name : String) :
    List (FleetStep MemoryHost.Adjustment) :=
  [.allocate label name, .operate label (.setNetns (some "ns")),
    .operate label (.setIfindex ⟨5⟩)]

/-- A device after that. -/
def tunnelDevice (number : Nat) (name : String) :
    Device MemoryHost.Adjustment :=
  { Device.fresh ⟨number⟩ name with netns := some "ns", ifindex := ⟨5⟩ }

/-- A device registers on the interface, and another one selects it. -/
def shareTunnel : List (FleetStep MemoryHost.Adjustment) :=
  selectTunnel "a" "first" ++ .operate "a" .register ::
    selectTunnel "b" "second"

/-- After every step of every run the pool counts the registered devices of
each namespace, and each of them holds the very context in the pool, which
is open.  So devices can always be unregistered and freed, a step panics
only if a callback does, no operation is refused because its context has
been closed, and without registered devices the pool is empty. -/
theorem run_keeps_leases (backend : Backend η ε) (answers : backend.Answers)
    (host : η) (steps : List (FleetStep ε)) :
    let f := run backend (start host) steps
    (∀ name count, f.manager.pool.refcount? name = some count ↔
      1 ≤ count ∧ count =
        f.live.countP fun d => d.isRegistered && d.netnsKey == name) ∧
    (∀ name, f.manager.pool.refcount? name = none ↔
      ∀ d ∈ f.live, (d.isRegistered && d.netnsKey == name) = false) ∧
    (∀ d ∈ f.live, ∀ context, d.context = some context →
      f.manager.pool.get? d.netnsKey = some context ∧
        f.manager.contexts.isOpen context = true) ∧
    (∀ label d, f.devices.at? label = some d →
      (outcome (Manager.free d) f.manager).1 = .ok () ∧
        (d.isRegistered = true →
          (outcome DeviceState.unregister (f.working d)).1 = .ok ())) ∧
    (∀ s message, (outcome (step backend s) f).1 = .error (.panic message) →
      f.MayPanic s message) ∧
    (backend.Discreet → ∀ netns operation,
      Notice.contextAlreadyClosed netns operation ∉
        f.manager.session.remarks) ∧
    ((∀ d ∈ f.live, d.isRegistered = false) →
      f.manager.pool.isEmpty = true) := by
  intro f
  have sound : f.Sound backend :=
    (run_follows answers (sound_start backend host) steps).sound
  have leased := sound.books.leased
  refine ⟨leased.refcount?_eq_some_iff, leased.refcount?_eq_none_iff,
    ?_, ?_, ?_, sound.books.unrefused, leased.isEmpty⟩
  · intro d hd context bound
    exact ⟨leased.held d hd context bound, leased.isOpen hd bound⟩
  · intro label d found
    have books := sound.select found
    obtain ⟨m, freeing, -⟩ := Manager.free_succeeds books
    refine ⟨by rw [freeing], fun registered => ?_⟩
    obtain ⟨context, bound⟩ := Option.isSome_iff_exists.mp registered
    obtain ⟨m, unregistering, -⟩ :=
      DeviceState.unregister_succeeds (s := f.working d) books bound
    rw [unregistering]
  · intro s message panicked
    obtain ⟨result, g, stepping, -, may⟩ := step_follows answers sound s
    rw [stepping] at panicked
    exact may message panicked

theorem refcount?_shareTunnel :
    let f := run MemoryHost.backend (start tunnelHost) shareTunnel
    MemoryHost.backend.Answers ∧ MemoryHost.backend.Discreet ∧
    f.manager.pool.refcount? "ns" = some 1 ∧
    ∀ netns operation, Notice.contextAlreadyClosed netns operation ∉
      f.manager.session.remarks := by
  have answers := MemoryHost.backend_calm.answers
  have discreet := MemoryHost.backend_calm.discreet
  obtain ⟨counted, -, -, -, -, unrefused, -⟩ :=
    run_keeps_leases MemoryHost.backend answers tunnelHost shareTunnel
  exact ⟨answers, discreet, (counted "ns" 1).mpr ⟨by decide, by rfl⟩,
    unrefused discreet⟩

/-- After every step of every run the registry lists the live devices in the
order of their allocation.  A device is registered exactly if its name is
known and exactly if it is bound, and then to the interface it selects; it
remembers nothing otherwise.  A registration warns exactly about the other
devices that are registered on the same interface. -/
theorem run_keeps_registry (backend : Backend η ε) (answers : backend.Answers)
    (host : η) (steps : List (FleetStep ε)) :
    let f := run backend (start host) steps
    let registry := f.manager.registry
    registry.ids = (allocatedIds backend (start host) steps).filter
      (fun id => f.live.any fun d => d.id == id) ∧
    registry.records.Perm (f.live.map fun d => (d.id, ⟨d.name,
      if d.isRegistered then some ⟨d.netnsKey, d.ifindex⟩ else none⟩)) ∧
    (∀ d ∈ f.live, ∃ record, registry.get? d.id = some record ∧
      record.name = d.name ∧
      (d.isRegistered = true ↔ d.devName.isSome = true) ∧
      (d.isRegistered = true ↔ record.binding.isSome = true) ∧
      (d.isRegistered = true →
        record.binding = some ⟨d.netnsKey, d.ifindex⟩) ∧
      (d.isRegistered = false →
        d.devName = none ∧ d.up = none ∧ d.mtu = none)) ∧
    (∀ netns ifindex,
      (registry.boundTo ⟨netns, ifindex⟩).Perm
        ((f.live.filter fun d =>
          d.isRegistered && d.selected == ⟨netns, ifindex⟩).map Device.id) ∧
      (registry.boundTo ⟨netns, ifindex⟩).Pairwise fun a b =>
        a.number < b.number) ∧
    (∀ label d g, f.devices.at? label = some d →
      outcome (step backend (.operate label .register)) f = (.ok (), g) →
      ∃ devName, (g.devices.at? label).bind Device.devName = some devName ∧
        (backend.Discreet → g.manager.session.remarks =
          f.manager.session.remarks ++
            Manager.warning devName ((f.others label).countP fun e =>
              e.isRegistered && e.selected == d.selected) ++
            [.lifecycle d.name
              (.registered devName d.ifindex d.netnsKey)])) := by
  intro f registry
  have follows := run_follows answers (sound_start backend host) steps
  have sound : f.Sound backend := follows.sound
  have listed := sound.books.listed
  refine ⟨listed.ids_eq_filter follows.ordered ?_, listed.perm, ?_, ?_, ?_⟩
  · intro d hd
    rcases follows.known d hd with new | ⟨e, he, -⟩
    · exact new
    · cases he
  · intro d hd
    have coherent := sound.books.coherent d hd
    refine ⟨d.record, listed.get?_device hd, rfl, ?_, ?_, ?_, ?_⟩
    · rw [coherent.named]
    · cases registered : d.isRegistered <;>
        simp [Device.record, registered]
    · intro registered
      simp [Device.record, registered, Device.selected]
    · intro unregistered
      have unbound : d.context = none := by
        simpa [Device.isRegistered] using unregistered
      have unnamed := coherent.named.trans unregistered
      exact ⟨by simpa using unnamed, coherent.forgotten unbound⟩
  · intro netns ifindex
    exact ⟨listed.boundTo_perm _, listed.pairwise_boundTo _⟩
  · intro label d g found registering
    rw [outcome_step_operate found] at registering
    simp only [Prod.mk.injEq] at registering
    obtain ⟨done, rfl⟩ := registering
    obtain ⟨devName, named, remarks⟩ :=
      DeviceState.remarks_register (s := f.working d) answers
        (sound.select found) (Prod.ext done rfl)
    refine ⟨devName, ?_, remarks⟩
    simp only [worked, Labelled.at?_put]
    exact named

theorem warning_shareTunnel :
    let f := run MemoryHost.backend (start tunnelHost) shareTunnel
    let g := (outcome (step MemoryHost.backend (.operate "b" .register)) f).2
    MemoryHost.backend.Answers ∧ MemoryHost.backend.Discreet ∧
    f.devices.at? "b" = some (tunnelDevice 1 "second") ∧
    outcome (step MemoryHost.backend (.operate "b" .register)) f =
      (.ok (), g) ∧
    ∃ devName, g.manager.session.remarks = f.manager.session.remarks ++
      [.interfaceShared devName 1,
        .lifecycle "second" (.registered devName ⟨5⟩ "ns")] := by
  intro f g
  have answers := MemoryHost.backend_calm.answers
  have discreet := MemoryHost.backend_calm.discreet
  have found : f.devices.at? "b" = some (tunnelDevice 1 "second") := by rfl
  have registering : outcome (step MemoryHost.backend
      (.operate "b" .register)) f = (.ok (), g) := Prod.ext (by rfl) rfl
  obtain ⟨-, -, -, -, warns⟩ :=
    run_keeps_registry MemoryHost.backend answers tunnelHost shareTunnel
  obtain ⟨devName, -, remarks⟩ := warns "b" _ g found registering
  have shared : (f.others "b").countP (fun e => e.isRegistered &&
      e.selected == (tunnelDevice 1 "second").selected) = 1 := by rfl
  have remarks := remarks discreet
  rw [shared, List.append_assoc] at remarks
  exact ⟨answers, discreet, found, registering, devName, remarks⟩

end Fleet

end InterfaceManager

import InterfaceManager.Proofs.Device.Manager
import InterfaceManager.Proofs.Device.Registry
import InterfaceManager.Proofs.Namespace.Pooled

/-!
# The books of a manager

That a device is registered is written down in several places: in the device
itself, in the pool as one user of its context, and in the registry as a
binding.  A manager is sound for its devices if all of these agree.  The
devices that are not registered do not matter to the pool; everything else
that happens to devices is described by what it does to the books.
-/

namespace InterfaceManager

namespace Device

/-- What a registry should know about a device. -/
def record (d : Device ε) : DeviceRecord :=
  ⟨d.name, if d.isRegistered then some d.selected else none⟩

def entry (d : Device ε) : DeviceId × DeviceRecord := (d.id, d.record)

/-- Whether a device is one of the users of the namespace called `name`. -/
def uses (name : String) (d : Device ε) : Bool :=
  d.isRegistered && d.netnsKey == name

/-- The name of the interface is known exactly while the device is
registered, and nothing is remembered of it otherwise. -/
structure Coherent (d : Device ε) : Prop where
  named : d.devName.isSome = d.isRegistered
  forgotten : d.context = none → d.up = none ∧ d.mtu = none

@[simp] theorem fresh_context (id : DeviceId) (name : String) :
    (fresh id name : Device ε).context = none := rfl

theorem fresh_coherent (id : DeviceId) (name : String) :
    (fresh id name : Device ε).Coherent where
  named := rfl
  forgotten := fun _ => ⟨rfl, rfl⟩

theorem isRegistered_eq_false {d : Device ε} (unbound : d.context = none) :
    d.isRegistered = false := by
  simp [isRegistered, unbound]

theorem isRegistered_eq_true {d : Device ε} {context : Context}
    (bound : d.context = some context) : d.isRegistered = true := by
  simp [isRegistered, bound]

theorem uses_eq_false {d : Device ε} (unbound : d.context = none)
    (name : String) : d.uses name = false := by
  simp [uses, isRegistered_eq_false unbound]

theorem record_eq_none {d : Device ε} (unbound : d.context = none) :
    d.record = ⟨d.name, none⟩ := by
  simp [record, isRegistered_eq_false unbound]

theorem record_eq_some {d : Device ε} {context : Context}
    (bound : d.context = some context) :
    d.record = ⟨d.name, some d.selected⟩ := by
  simp [record, isRegistered_eq_true bound]

end Device

/-! ## Leases and their users -/

/-- A sound pool in which every name has as many users as devices are
registered there, and in which each of them holds the pooled context. -/
structure Pool.Leased (contexts : Contexts) (p : Pool)
    (devices : List (Device ε)) : Prop where
  sound : p.Sound contexts
  users : ∀ name, p.users name = devices.countP (Device.uses name)
  held : ∀ d ∈ devices, ∀ context, d.context = some context →
    p.get? d.netnsKey = some context

namespace Pool.Leased

variable {contexts later : Contexts} {p q : Pool} {d : Device ε}
  {devices others : List (Device ε)}

theorem nil (contexts : Contexts) :
    Pool.Leased contexts .empty ([] : List (Device ε)) where
  sound := sound_empty contexts
  users := fun _ => rfl
  held := by
    intro d hd
    cases hd

theorem of_perm (leased : Leased contexts p devices)
    (perm : devices.Perm others) : Leased contexts p others where
  sound := leased.sound
  users := fun name => (leased.users name).trans (perm.countP_eq _)
  held := fun d hd => leased.held d (perm.mem_iff.mpr hd)

theorem extend (leased : Leased contexts p devices)
    (extension : later.Extends contexts) : Leased later p devices where
  sound := leased.sound.extend extension
  users := leased.users
  held := leased.held

/-- A device that is not registered does not matter. -/
theorem cons_iff (unbound : d.context = none) :
    Leased contexts p (d :: devices) ↔ Leased contexts p devices := by
  have unused : ∀ name, (d :: devices).countP (Device.uses name) =
      devices.countP (Device.uses name) := by
    intro name
    exact List.countP_cons_of_neg (by simp [Device.uses_eq_false unbound])
  constructor
  · intro leased
    exact ⟨leased.sound, fun name => (leased.users name).trans (unused name),
      fun other hother => leased.held other (List.mem_cons_of_mem d hother)⟩
  · intro leased
    refine ⟨leased.sound,
      fun name => (leased.users name).trans (unused name).symm, ?_⟩
    intro other hother context bound
    rcases List.mem_cons.mp hother with rfl | old
    · rw [unbound] at bound
      cases bound
    · exact leased.held other old context bound

/-- A device may change as long as its context and its namespace stay. -/
theorem replace {d' : Device ε} (leased : Leased contexts p (d :: devices))
    (context : d'.context = d.context) (key : d'.netnsKey = d.netnsKey) :
    Leased contexts p (d' :: devices) where
  sound := leased.sound
  users := by
    intro name
    have same : d'.uses name = d.uses name := by
      simp [Device.uses, Device.isRegistered, context, key]
    rw [leased.users name, List.countP_cons, List.countP_cons, same]
  held := by
    intro other hother held bound
    rcases List.mem_cons.mp hother with rfl | old
    · rw [key]
      exact leased.held d List.mem_cons_self held (context ▸ bound)
    · exact leased.held other (List.mem_cons_of_mem d old) held bound

/-- The lease of a registered device. -/
theorem lease (leased : Leased contexts p devices) (hd : d ∈ devices)
    {context : Context} (bound : d.context = some context) :
    context.name = d.netnsKey ∧
      ∃ lease, p.lease? context.name = some lease ∧
        lease.context = context ∧ 0 < lease.refcount := by
  obtain ⟨lease, found, rfl⟩ :=
    exists_lease_of_get? (leased.held d hd context bound)
  have hname := leased.sound.named found
  refine ⟨hname, lease, ?_, rfl, leased.sound.used found⟩
  rw [hname]
  exact found

/-- The context of a registered device is open. -/
theorem isOpen (leased : Leased contexts p devices) (hd : d ∈ devices)
    {context : Context} (bound : d.context = some context) :
    contexts.isOpen context = true := by
  obtain ⟨-, lease, found, rfl, -⟩ := leased.lease hd bound
  exact leased.sound.isOpen found

/-- Registering a device takes a lease of its namespace. -/
theorem acquire (leased : Leased contexts p devices) {context : Context}
    (acquired : Acquired d.netnsKey contexts p context later q)
    (bound : d.context = some context) :
    Leased later q (d :: devices) where
  sound := acquired.sound leased.sound
  users := by
    intro name
    have registered := Device.isRegistered_eq_true bound
    rw [acquired.users_eq, leased.users, List.countP_cons]
    by_cases hname : name = d.netnsKey
    · simp [Device.uses, registered, hname]
    · have other : ¬ d.netnsKey = name := fun h => hname h.symm
      simp [Device.uses, registered, hname, other]
  held := by
    intro other hother held hheld
    rcases List.mem_cons.mp hother with rfl | old
    · rw [bound] at hheld
      cases hheld
      exact acquired.get?_self
    · exact acquired.get?_of_get? (leased.held other old held hheld)

/-- Unregistering a device gives its lease back. -/
theorem release (leased : Leased contexts p (d :: devices))
    {context : Context} (bound : d.context = some context)
    (released : Released context contexts p later q) :
    Leased later q devices := by
  have registered := Device.isRegistered_eq_true bound
  have hname := (leased.lease List.mem_cons_self bound).1
  have users : ∀ name, q.users name =
      devices.countP (Device.uses name) := by
    intro name
    have before := leased.users name
    rw [released.users_eq, List.countP_cons] at before
    by_cases hkey : name = context.name
    · simp only [Device.uses, registered, hkey, ← hname, beq_self_eq_true,
        Bool.and_self, if_true] at before ⊢
      omega
    · have other : ¬ d.netnsKey = name := by
        intro h
        exact hkey (h.symm.trans hname.symm)
      simpa [Device.uses, hkey, other] using before
  refine ⟨released.sound leased.sound, users, ?_⟩
  intro other hother held hheld
  refine released.get?_of_get?
    (leased.held other (List.mem_cons_of_mem d hother) held hheld) ?_
  rw [users]
  refine List.countP_pos_iff.mpr ⟨other, hother, ?_⟩
  simp [Device.uses, Device.isRegistered_eq_true hheld]

end Pool.Leased

/-! ## Sound managers -/

namespace Manager

/-- The books agree on the devices of the manager, and no operation has been
refused because a context had been closed, unless the backend says so. -/
structure Sound (backend : Backend η ε) (m : Manager η)
    (devices : List (Device ε)) : Prop where
  leased : Pool.Leased m.contexts m.pool devices
  listed : m.registry.Lists (devices.map Device.entry)
  coherent : ∀ d ∈ devices, d.Coherent
  unrefused : backend.Discreet → m.session.Unrefused

theorem sound_start (backend : Backend η ε) (host : η) :
    (start host).Sound backend [] where
  leased := .nil .empty
  listed := Registry.lists_empty
  coherent := by
    intro d hd
    cases hd
  unrefused := by
    intro _ netns operation
    exact List.not_mem_nil

namespace Sound

variable {backend : Backend η ε} {m : Manager η} {d : Device ε}
  {devices others : List (Device ε)}

theorem of_perm (sound : m.Sound backend devices)
    (perm : devices.Perm others) : m.Sound backend others where
  leased := sound.leased.of_perm perm
  listed := sound.listed.of_perm (perm.map Device.entry)
  coherent := fun d hd => sound.coherent d (perm.mem_iff.mpr hd)
  unrefused := sound.unrefused

theorem withSession (sound : m.Sound backend devices) {t : Session η}
    (unrefused : backend.Discreet → t.Unrefused) :
    (m.withSession t).Sound backend devices where
  leased := sound.leased
  listed := sound.listed
  coherent := sound.coherent
  unrefused := unrefused

theorem noting (sound : m.Sound backend devices) {n : Notice}
    (other : n.isRefusal = false) :
    (m.withSession (m.session.noting n)).Sound backend devices :=
  sound.withSession fun discreet => (sound.unrefused discreet).noting other

/-- A device may change as long as its entry and its context stay. -/
theorem replace {d' : Device ε} (sound : m.Sound backend (d :: devices))
    (entry : d'.entry = d.entry) (context : d'.context = d.context)
    (coherent : d'.Coherent) : m.Sound backend (d' :: devices) where
  leased := by
    rcases hcontext : d.context with _ | held
    · rw [hcontext] at context
      rw [Pool.Leased.cons_iff context]
      exact (Pool.Leased.cons_iff hcontext).mp sound.leased
    · rw [hcontext] at context
      have record : d'.record = d.record := congrArg Prod.snd entry
      rw [Device.record_eq_some context, Device.record_eq_some hcontext]
        at record
      have selected : d'.selected = d.selected :=
        Option.some.inj (DeviceRecord.mk.inj record).2
      exact sound.leased.replace (context.trans hcontext.symm)
        (Binding.mk.inj selected).1
  listed := by
    have listed := sound.listed
    rw [List.map_cons, ← entry] at listed
    exact listed
  coherent := by
    intro other hother
    rcases List.mem_cons.mp hother with rfl | old
    · exact coherent
    · exact sound.coherent other (List.mem_cons_of_mem d old)
  unrefused := sound.unrefused

end Sound
end Manager

end InterfaceManager

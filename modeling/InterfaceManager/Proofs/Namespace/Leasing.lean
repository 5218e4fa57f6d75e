import InterfaceManager.Proofs.Namespace.Pool

/-!
# Acquiring and releasing contexts

A sound pool has one lease for each name, with at least one user, on an open
context of that name that no other name shares.  Acquiring and releasing are
described by what they do to the leases and to the handles; every later
statement about pools goes through these descriptions.
-/

namespace InterfaceManager

namespace Contexts

/-- The handles of the earlier contexts are what they were. -/
def Extends (later earlier : Contexts) : Prop :=
  earlier.handles <+: later.handles

theorem Extends.refl (contexts : Contexts) : contexts.Extends contexts :=
  List.prefix_refl _

theorem Extends.handle?_eq {later earlier : Contexts}
    (extension : later.Extends earlier) {context : Context}
    (created : context.id < earlier.handles.length) :
    later.handle? context = earlier.handle? context := by
  simp only [handle?, List.getElem?_eq_getElem created]
  rw [List.getElem?_eq_getElem (Nat.lt_of_lt_of_le created extension.length_le),
    extension.getElem created]

theorem Extends.isOpen_eq {later earlier : Contexts}
    (extension : later.Extends earlier) {context : Context}
    (created : context.id < earlier.handles.length) :
    later.isOpen context = earlier.isOpen context := by
  rw [isOpen, isOpen, extension.handle?_eq created]

theorem extends_create
    (contexts : Contexts) (name : String) (handle : Option Handle) :
    (contexts.create name handle).2.Extends contexts :=
  List.prefix_append _ _

/-- A context that is closed as soon as it has been created leaves the
others as they were. -/
theorem extends_close_create
    (contexts : Contexts) (name : String) (handle : Option Handle) :
    ((contexts.create name handle).2.close
      (contexts.create name handle).1).Extends contexts := by
  simp [Extends, create, close]

theorem handle?_create
    (contexts : Contexts) (name : String) (handle : Option Handle) :
    (contexts.create name handle).2.handle?
      (contexts.create name handle).1 = handle := by
  simp [handle?, create]

theorem handle?_create_eq (contexts : Contexts) (name : String)
    (handle : Option Handle) (context : Context) :
    (contexts.create name handle).2.handle? context =
      if context.id = contexts.handles.length then handle
      else contexts.handle? context := by
  rcases Nat.lt_trichotomy context.id contexts.handles.length
    with old | new | unborn
  · simp [handle?, create, List.getElem?_append_left old, Nat.ne_of_lt old]
  · simp [handle?, create, new]
  · have short : (contexts.handles ++ [handle]).length ≤ context.id := by
      rw [List.length_append]
      exact unborn
    rw [handle?, create, List.getElem?_eq_none short,
      if_neg (Nat.ne_of_gt unborn), handle?,
      List.getElem?_eq_none (Nat.le_of_lt unborn)]

/-- Outside the default namespace, a context that is open has a handle. -/
theorem exists_handle {contexts : Contexts} {context : Context}
    (isOpen : contexts.isOpen context = true)
    (named : context.isDefault = false) :
    ∃ handle, contexts.handle? context = some handle := by
  rw [Contexts.isOpen, named, Bool.false_or] at isOpen
  exact Option.isSome_iff_exists.mp isOpen

theorem close_eq_self {contexts : Contexts} {context : Context}
    (closed : contexts.handle? context = none) :
    contexts.close context = contexts := by
  obtain ⟨handles⟩ := contexts
  simp only [handle?] at closed
  simp only [close, mk.injEq]
  refine List.ext_getElem? fun i => ?_
  rw [List.getElem?_set]
  by_cases same : context.id = i
  · subst same
    rcases hhandle : handles[context.id]? with _ | handle
    · have outside : ¬ context.id < handles.length := by simpa using hhandle
      simp [outside]
    · have inside : context.id < handles.length :=
        (List.getElem?_eq_some_iff.mp hhandle).1
      rw [hhandle, Option.join_some] at closed
      simp [inside, closed]
  · simp [same]

theorem handle?_close (contexts : Contexts) (closed context : Context) :
    (contexts.close closed).handle? context =
      if context.id = closed.id then none else contexts.handle? context := by
  simp only [handle?, close, List.getElem?_set]
  by_cases same : context.id = closed.id
  · simp only [same, if_true]
    split <;> rfl
  · have different : ¬ closed.id = context.id := fun h => same h.symm
    simp [same, different]

end Contexts

namespace Pool

/-! ## Sound pools -/

/-- What holds of a pool at any time, where `contexts` are all the contexts
ever created. -/
structure Sound (contexts : Contexts) (p : Pool) : Prop where
  nodup : (p.leases.map Prod.fst).Nodup
  named : ∀ {name lease}, p.lease? name = some lease →
    lease.context.name = name
  created : ∀ {name lease}, p.lease? name = some lease →
    lease.context.id < contexts.handles.length
  isOpen : ∀ {name lease}, p.lease? name = some lease →
    contexts.isOpen lease.context = true
  distinct : ∀ {name lease other lease'}, p.lease? name = some lease →
    p.lease? other = some lease' → lease.context.id = lease'.context.id →
    name = other
  used : ∀ {name lease}, p.lease? name = some lease → 0 < lease.refcount

theorem sound_empty (contexts : Contexts) : Sound contexts empty where
  nodup := List.nodup_nil
  named := by simp
  created := by simp
  isOpen := by simp
  distinct := by simp
  used := by simp

/-- A pool stays sound when other contexts are created. -/
theorem Sound.extend {contexts later : Contexts} {p : Pool}
    (sound : p.Sound contexts) (extension : later.Extends contexts) :
    p.Sound later where
  nodup := sound.nodup
  named := sound.named
  created := fun found =>
    Nat.lt_of_lt_of_le (sound.created found) extension.length_le
  isOpen := fun found => by
    rw [extension.isOpen_eq (sound.created found)]
    exact sound.isOpen found
  distinct := sound.distinct
  used := sound.used

/-- The number of users of a name, which is zero if there is no lease. -/
def users (p : Pool) (name : String) : Nat := (p.refcount? name).getD 0

/-- A sound pool has a lease exactly for the names with users. -/
theorem Sound.refcount?_eq {contexts : Contexts} {p : Pool}
    (sound : p.Sound contexts) (name : String) :
    p.refcount? name =
      if p.users name = 0 then none else some (p.users name) := by
  rcases Option.eq_none_or_eq_some (p.lease? name) with missing | ⟨lease, found⟩
  · simp [users, refcount?, missing]
  · have used := sound.used found
    have positive : lease.refcount ≠ 0 := by omega
    simp [users, refcount?, found, positive]

/-- What a successful acquisition of `name` makes of the contexts and the
pool, and which context it gives. -/
inductive Acquired (name : String) (contexts : Contexts) (p : Pool) :
    Context → Contexts → Pool → Prop
  /-- The context of the lease gets another user. -/
  | shared {lease : Lease} (found : p.lease? name = some lease) :
      Acquired name contexts p lease.context contexts
        (p.setRefcount name (lease.refcount + 1))
  /-- A new context gets the first lease. -/
  | created {handle : Option Handle} (missing : p.lease? name = none)
      (usable : name = "" ∨ handle.isSome = true) :
      Acquired name contexts p (contexts.create name handle).1
        (contexts.create name handle).2
        (p.insert name ⟨(contexts.create name handle).1, 1⟩)

namespace Acquired

variable {name : String} {contexts later : Contexts} {p q : Pool}
  {context : Context}

theorem get?_self (acquired : Acquired name contexts p context later q) :
    q.get? name = some context := by
  cases acquired with
  | shared found => simp [get?, lease?_setRefcount, found]
  | created missing => simp [get?, lease?_insert missing]

/-- No context in the pool is replaced. -/
theorem get?_of_get? (acquired : Acquired name contexts p context later q)
    {other : String} {kept : Context} (held : p.get? other = some kept) :
    q.get? other = some kept := by
  cases acquired with
  | shared found =>
    by_cases equal : other = name
    · subst equal
      simpa [get?, lease?_setRefcount, found] using held
    · simpa [get?, lease?_setRefcount, equal] using held
  | created missing =>
    have different : other ≠ name := by
      intro equal
      subst equal
      simp [get?, missing] at held
    simpa [get?, lease?_insert missing, different] using held

theorem users_eq (acquired : Acquired name contexts p context later q)
    (other : String) :
    q.users other = p.users other + if other = name then 1 else 0 := by
  cases acquired with
  | shared found =>
    by_cases equal : other = name
    · subst equal
      simp [users, refcount?, lease?_setRefcount, found]
    · simp [users, refcount?, lease?_setRefcount, equal]
  | created missing =>
    by_cases equal : other = name
    · subst equal
      simp [users, refcount?, lease?_insert missing, missing]
    · simp [users, refcount?, lease?_insert missing, equal]

end Acquired

/-- What giving back `context`, for which the pool has a lease, makes of the
contexts and the pool. -/
inductive Released (context : Context) (contexts : Contexts) (p : Pool) :
    Contexts → Pool → Prop
  | kept {lease : Lease} (found : p.lease? context.name = some lease)
      (shared : 1 < lease.refcount) :
      Released context contexts p contexts
        (p.setRefcount context.name (lease.refcount - 1))
  /-- The last user closes the context and ends the lease. -/
  | destroyed {lease : Lease} (found : p.lease? context.name = some lease)
      (last : lease.refcount = 1) :
      Released context contexts p (contexts.close lease.context)
        (p.erase context.name)

namespace Released

variable {contexts later : Contexts} {p q : Pool} {context : Context}

theorem users_eq (released : Released context contexts p later q)
    (other : String) :
    p.users other = q.users other + if other = context.name then 1 else 0 := by
  cases released with
  | kept found shared =>
    by_cases equal : other = context.name
    · subst equal
      simp only [users, refcount?, lease?_setRefcount, found, if_true,
        Option.map_some, Option.getD_some]
      omega
    · simp [users, refcount?, lease?_setRefcount, equal]
  | destroyed found last =>
    by_cases equal : other = context.name
    · subst equal
      simp [users, refcount?, lease?_erase, found, last]
    · simp [users, refcount?, lease?_erase, equal]

/-- A context with users left is not replaced. -/
theorem get?_of_get? (released : Released context contexts p later q)
    {other : String} {kept : Context} (held : p.get? other = some kept)
    (used : 0 < q.users other) : q.get? other = some kept := by
  cases released with
  | kept found shared =>
    by_cases equal : other = context.name
    · subst equal
      simpa [get?, lease?_setRefcount, found] using held
    · simpa [get?, lease?_setRefcount, equal] using held
  | destroyed found last =>
    have different : other ≠ context.name := by
      intro equal
      subst equal
      simp [users, refcount?, lease?_erase] at used
    simpa [get?, lease?_erase, different] using held

end Released

/-! ## Soundness is kept -/

theorem Sound.setRefcount {contexts : Contexts} {p : Pool}
    (sound : p.Sound contexts) (name : String) {refcount : Nat}
    (positive : 0 < refcount) :
    (p.setRefcount name refcount).Sound contexts := by
  have origin : ∀ {other lease},
      (p.setRefcount name refcount).lease? other = some lease →
      ∃ old, p.lease? other = some old ∧ old.context = lease.context ∧
        0 < lease.refcount := by
    intro other lease found
    rw [lease?_setRefcount] at found
    by_cases equal : other = name
    · rw [if_pos equal, Option.map_eq_some_iff] at found
      obtain ⟨old, hold, rfl⟩ := found
      exact ⟨old, hold, rfl, positive⟩
    · rw [if_neg equal] at found
      exact ⟨lease, found, rfl, sound.used found⟩
  have keys : (p.setRefcount name refcount).leases.map Prod.fst =
      p.leases.map Prod.fst := by
    simp only [Pool.setRefcount, List.map_map]
    refine List.map_congr_left fun entry _ => ?_
    by_cases hkey : entry.1 = name <;> simp [hkey]
  refine ⟨keys ▸ sound.nodup, ?_, ?_, ?_, ?_, ?_⟩
  · intro other lease found
    obtain ⟨old, hold, hcontext, -⟩ := origin found
    exact hcontext ▸ sound.named hold
  · intro other lease found
    obtain ⟨old, hold, hcontext, -⟩ := origin found
    exact hcontext ▸ sound.created hold
  · intro other lease found
    obtain ⟨old, hold, hcontext, -⟩ := origin found
    exact hcontext ▸ sound.isOpen hold
  · intro other lease other' lease' found found' same
    obtain ⟨old, hold, hcontext, -⟩ := origin found
    obtain ⟨old', hold', hcontext', -⟩ := origin found'
    rw [← hcontext, ← hcontext'] at same
    exact sound.distinct hold hold' same
  · intro other lease found
    obtain ⟨old, -, -, used⟩ := origin found
    exact used

/-- A lease on a new context, open or of the default namespace, may be
added. -/
theorem Sound.insert {contexts : Contexts} {p : Pool}
    (sound : p.Sound contexts) {name : String} {handle : Option Handle}
    (missing : p.lease? name = none)
    (usable : name = "" ∨ handle.isSome = true) :
    (p.insert name ⟨(contexts.create name handle).1, 1⟩).Sound
      (contexts.create name handle).2 := by
  have extension := contexts.extends_create name handle
  have fresh : (contexts.create name handle).1.id = contexts.handles.length :=
    rfl
  have cases : ∀ {other lease},
      (p.insert name ⟨(contexts.create name handle).1, 1⟩).lease? other =
        some lease →
      other = name ∧ lease = ⟨(contexts.create name handle).1, 1⟩ ∨
        p.lease? other = some lease := by
    intro other lease found
    rw [lease?_insert missing] at found
    by_cases equal : other = name
    · rw [if_pos equal] at found
      exact Or.inl ⟨equal, (Option.some.inj found).symm⟩
    · rw [if_neg equal] at found
      exact Or.inr found
  refine ⟨?_, ?_, ?_, ?_, ?_, ?_⟩
  · have keys : (p.insert name
        ⟨(contexts.create name handle).1, 1⟩).leases.map Prod.fst =
        p.leases.map Prod.fst ++ [name] := by
      simp [Pool.insert]
    rw [keys, List.nodup_append]
    refine ⟨sound.nodup, by simp, ?_⟩
    intro key hkey other hother equal
    rw [List.mem_singleton] at hother
    subst equal hother
    exact lease?_eq_none_iff.mp missing hkey
  · intro other lease found
    rcases cases found with ⟨rfl, rfl⟩ | old
    · rfl
    · exact sound.named old
  · intro other lease found
    rcases cases found with ⟨rfl, rfl⟩ | old
    · simp [Contexts.create]
    · exact Nat.lt_of_lt_of_le (sound.created old) extension.length_le
  · intro other lease found
    rcases cases found with ⟨rfl, rfl⟩ | old
    · rw [Contexts.isOpen, Contexts.handle?_create, Context.isDefault]
      rcases usable with rfl | opened
      · rfl
      · simp [opened]
    · rw [extension.isOpen_eq (sound.created old)]
      exact sound.isOpen old
  · intro other lease other' lease' found found' same
    rcases cases found with ⟨rfl, rfl⟩ | old <;>
      rcases cases found' with ⟨rfl, rfl⟩ | old'
    · rfl
    · have created := sound.created old'
      rw [← same, fresh] at created
      exact absurd created (Nat.lt_irrefl _)
    · have created := sound.created old
      rw [same, fresh] at created
      exact absurd created (Nat.lt_irrefl _)
    · exact sound.distinct old old' same
  · intro other lease found
    rcases cases found with ⟨rfl, rfl⟩ | old
    · exact Nat.one_pos
    · exact sound.used old

/-- A lease may be ended when its context is closed. -/
theorem Sound.erase {contexts : Contexts} {p : Pool}
    (sound : p.Sound contexts) {name : String} {lease : Lease}
    (found : p.lease? name = some lease) :
    (p.erase name).Sound (contexts.close lease.context) := by
  have origin : ∀ {other rest}, (p.erase name).lease? other = some rest →
      other ≠ name ∧ p.lease? other = some rest := by
    intro other rest remaining
    rw [lease?_erase] at remaining
    by_cases equal : other = name
    · rw [if_pos equal] at remaining
      cases remaining
    · rw [if_neg equal] at remaining
      exact ⟨equal, remaining⟩
  refine ⟨?_, ?_, ?_, ?_, ?_, ?_⟩
  · exact sound.nodup.sublist ((List.filter_sublist).map Prod.fst)
  · intro other rest remaining
    exact sound.named (origin remaining).2
  · intro other rest remaining
    simpa [Contexts.close] using sound.created (origin remaining).2
  · intro other rest remaining
    obtain ⟨different, old⟩ := origin remaining
    have apart : rest.context.id ≠ lease.context.id := fun same =>
      different (sound.distinct old found same)
    have before := sound.isOpen old
    rw [Contexts.isOpen] at before ⊢
    rw [Contexts.handle?_close, if_neg apart]
    exact before
  · intro other rest other' rest' remaining remaining' same
    exact sound.distinct (origin remaining).2 (origin remaining').2 same
  · intro other rest remaining
    exact sound.used (origin remaining).2

theorem Acquired.sound {name : String} {contexts later : Contexts}
    {p q : Pool} {context : Context}
    (acquired : Acquired name contexts p context later q)
    (sound : p.Sound contexts) : q.Sound later := by
  cases acquired with
  | shared found => exact sound.setRefcount name (Nat.succ_pos _)
  | created missing usable => exact sound.insert missing usable

/-- The context that is acquired is open. -/
theorem Acquired.isOpen {name : String} {contexts later : Contexts}
    {p q : Pool} {context : Context}
    (acquired : Acquired name contexts p context later q)
    (sound : p.Sound contexts) : later.isOpen context = true := by
  obtain ⟨lease, found, rfl⟩ := exists_lease_of_get? acquired.get?_self
  exact (acquired.sound sound).isOpen found

theorem Released.sound {contexts later : Contexts} {p q : Pool}
    {context : Context} (released : Released context contexts p later q)
    (sound : p.Sound contexts) : q.Sound later := by
  cases released with
  | kept found shared =>
    exact sound.setRefcount context.name (Nat.sub_pos_of_lt shared)
  | destroyed found last => exact sound.erase found

end Pool

end InterfaceManager

import InterfaceManager.Namespace.Pool
import InterfaceManager.Proofs.Outcome
import Mathlib.Data.List.Nodup

/-!
# What pools keep

A pool is looked at through its leases by name.  It is sound for the handles
of all contexts ever created if each name has one lease, with at least one
user, on an open context of that name that no other name shares.  The two
operations are described by what they do to the leases and to the handles,
and keep every pool sound.
-/

namespace InterfaceManager

namespace Pool

@[simp] theorem lease?_empty (name : String) : empty.lease? name = none := rfl

theorem lease?_cons
    (key : String) (lease : Lease) (rest : List (String × Lease))
    (name : String) :
    lease? ⟨(key, lease) :: rest⟩ name =
      if key = name then some lease else lease? ⟨rest⟩ name := by
  by_cases hkey : key = name
  · simp [lease?, hkey]
  · have hbeq : (key == name) = false := by simpa using hkey
    simp [lease?, hkey, hbeq]

theorem mem_of_lease? {p : Pool} {name : String} {lease : Lease}
    (found : p.lease? name = some lease) : (name, lease) ∈ p.leases := by
  simp only [lease?, Option.map_eq_some_iff] at found
  obtain ⟨⟨key, value⟩, hfind, rfl⟩ := found
  have hkey : key = name := by simpa using List.find?_some hfind
  subst hkey
  exact List.mem_of_find?_eq_some hfind

/-- A pooled context is that of a lease. -/
theorem exists_lease_of_get? {p : Pool} {name : String} {context : Context}
    (held : p.get? name = some context) :
    ∃ lease, p.lease? name = some lease ∧ lease.context = context := by
  rw [get?, Option.map_eq_some_iff] at held
  exact held

theorem lease?_eq_none_iff {p : Pool} {name : String} :
    p.lease? name = none ↔ name ∉ p.leases.map Prod.fst := by
  obtain ⟨leases⟩ := p
  induction leases with
  | nil => simp [lease?]
  | cons entry rest ih =>
    obtain ⟨key, lease⟩ := entry
    rw [lease?_cons]
    by_cases hkey : key = name
    · simp [hkey]
    · have different : ¬ name = key := fun h => hkey h.symm
      simp only [hkey, if_false, ih, List.map_cons, List.mem_cons,
        different, false_or]

theorem lease?_insert {p : Pool} {name : String}
    (missing : p.lease? name = none) (lease : Lease) (other : String) :
    (p.insert name lease).lease? other =
      if other = name then some lease else p.lease? other := by
  by_cases equal : other = name
  · subst equal
    simp only [lease?, Option.map_eq_none_iff] at missing
    simp [lease?, insert, List.find?_append, missing]
  · have different : (name == other) = false := by
      simpa using fun h : name = other => equal h.symm
    simp [lease?, insert, List.find?_append, different, equal]

theorem lease?_setRefcount
    (p : Pool) (name : String) (refcount : Nat) (other : String) :
    (p.setRefcount name refcount).lease? other =
      if other = name then
        (p.lease? other).map fun lease => { lease with refcount }
      else p.lease? other := by
  obtain ⟨leases⟩ := p
  induction leases with
  | nil => simp [lease?, setRefcount]
  | cons entry rest ih =>
    obtain ⟨key, lease⟩ := entry
    simp only [setRefcount, List.map_cons] at ih ⊢
    by_cases hname : key = name
    · rw [if_pos hname, lease?_cons, lease?_cons, ih]
      by_cases hkey : key = other
      · simp [← hkey, hname]
      · simp [hkey]
    · rw [if_neg hname, lease?_cons, lease?_cons, ih]
      by_cases hkey : key = other
      · have different : ¬ other = name := fun h => hname (hkey.trans h)
        simp [hkey, different]
      · simp [hkey]

theorem lease?_erase (p : Pool) (name other : String) :
    (p.erase name).lease? other =
      if other = name then none else p.lease? other := by
  obtain ⟨leases⟩ := p
  induction leases with
  | nil => simp [lease?, erase]
  | cons entry rest ih =>
    obtain ⟨key, lease⟩ := entry
    simp only [erase] at ih ⊢
    by_cases hname : key = name
    · rw [List.filter_cons_of_neg (by simp [hname]), ih, lease?_cons]
      by_cases equal : other = name
      · simp [equal]
      · have different : ¬ key = other := fun h => equal (h.symm.trans hname)
        simp [equal, different]
    · rw [List.filter_cons_of_pos (by simp [hname]), lease?_cons,
        lease?_cons, ih]
      by_cases hkey : key = other
      · have different : ¬ other = name := fun h => hname (hkey.trans h)
        simp [hkey, different]
      · simp [hkey]

@[simp] theorem setRefcount_setRefcount
    (p : Pool) (name : String) (first second : Nat) :
    (p.setRefcount name first).setRefcount name second =
      p.setRefcount name second := by
  simp only [setRefcount, List.map_map]
  congr 2
  funext ⟨key, lease⟩
  by_cases hkey : key = name <;> simp [hkey]

@[simp] theorem erase_setRefcount
    (p : Pool) (name : String) (refcount : Nat) :
    (p.setRefcount name refcount).erase name = p.erase name := by
  obtain ⟨leases⟩ := p
  induction leases with
  | nil => rfl
  | cons entry rest ih =>
    obtain ⟨key, lease⟩ := entry
    simp only [erase, setRefcount, mk.injEq] at ih ⊢
    by_cases hkey : key = name <;> simp [hkey, ih]

theorem erase_insert {p : Pool} {name : String}
    (missing : p.lease? name = none) (lease : Lease) :
    (p.insert name lease).erase name = p := by
  rw [lease?_eq_none_iff] at missing
  have kept : p.leases.filter (fun entry => entry.1 != name) = p.leases := by
    rw [List.filter_eq_self]
    intro entry hentry
    have hne : entry.1 ≠ name := fun h =>
      missing (List.mem_map.mpr ⟨entry, hentry, h⟩)
    simpa using hne
  simp [erase, insert, kept]

/-- Setting the number of users to what it is changes nothing. -/
theorem setRefcount_self {p : Pool} {name : String} {lease : Lease}
    (nodup : (p.leases.map Prod.fst).Nodup)
    (found : p.lease? name = some lease) :
    p.setRefcount name lease.refcount = p := by
  have same : ∀ entry ∈ p.leases,
      (if entry.1 = name then
        (entry.1, { entry.2 with refcount := lease.refcount })
      else (entry.1, entry.2)) = entry := by
    intro entry hentry
    by_cases hkey : entry.1 = name
    · have hsame : entry = (name, lease) :=
        List.inj_on_of_nodup_map nodup hentry (mem_of_lease? found) hkey
      simp [hsame]
    · simp [hkey]
  obtain ⟨leases⟩ := p
  simp only [setRefcount, mk.injEq]
  calc
    leases.map _ = leases.map id := List.map_congr_left same
    _ = leases := List.map_id leases

end Pool

end InterfaceManager

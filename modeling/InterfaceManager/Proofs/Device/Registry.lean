import InterfaceManager.Device.Registry
import Mathlib.Data.List.Nodup

/-!
# What registries keep

A registry lists the devices that it should if its records are theirs, each
under the identity of its device, and if the identities are in the order in
which they were handed out.  Each change of a registry is one change of what
it lists.
-/

namespace InterfaceManager
namespace Registry

/-- The identities of the live devices, oldest first. -/
def ids (r : Registry) : List DeviceId := r.records.map Prod.fst

/-- The records are the given ones, in the order of their identities, which
have all been handed out already. -/
structure Lists (r : Registry) (entries : List (DeviceId × DeviceRecord)) :
    Prop where
  perm : r.records.Perm entries
  ordered : r.ids.Pairwise fun a b => a.number < b.number
  given : ∀ id ∈ r.ids, id.number < r.next

theorem records_setBinding (r : Registry) (id : DeviceId)
    (binding : Option Binding) :
    (r.setBinding id binding).records = r.records.map fun entry =>
      if entry.1 = id then (entry.1, { entry.2 with binding }) else entry :=
  rfl

theorem ids_setBinding (r : Registry) (id : DeviceId)
    (binding : Option Binding) : (r.setBinding id binding).ids = r.ids := by
  rw [ids, ids, records_setBinding, List.map_map]
  apply List.map_congr_left
  intro entry _
  by_cases same : entry.1 = id <;> simp [same]

theorem lists_empty : empty.Lists [] where
  perm := .nil
  ordered := .nil
  given := by
    intro id hid
    cases hid

namespace Lists

variable {r : Registry} {id : DeviceId} {record : DeviceRecord}
  {entries : List (DeviceId × DeviceRecord)}

theorem of_perm {others : List (DeviceId × DeviceRecord)}
    (lists : r.Lists entries) (perm : entries.Perm others) :
    r.Lists others :=
  ⟨lists.perm.trans perm, lists.ordered, lists.given⟩

theorem nodup (lists : r.Lists entries) : (entries.map Prod.fst).Nodup := by
  have distinct : r.ids.Nodup := by
    refine lists.ordered.imp ?_
    intro a b hlt heq
    subst heq
    exact Nat.lt_irrefl _ hlt
  exact (lists.perm.map Prod.fst).nodup_iff.mp distinct

theorem mem_ids_iff (lists : r.Lists entries) :
    id ∈ r.ids ↔ ∃ record, (id, record) ∈ entries := by
  constructor
  · intro hid
    obtain ⟨⟨_, record⟩, hmem, rfl⟩ := List.mem_map.mp hid
    exact ⟨record, lists.perm.mem_iff.mp hmem⟩
  · rintro ⟨record, hmem⟩
    exact List.mem_map.mpr ⟨_, lists.perm.mem_iff.mpr hmem, rfl⟩

/-- The other devices have other identities. -/
theorem ne_of_mem (lists : r.Lists ((id, record) :: entries))
    {entry : DeviceId × DeviceRecord} (hentry : entry ∈ entries) :
    entry.1 ≠ id := by
  intro heq
  have hnodup := lists.nodup
  rw [List.map_cons, List.nodup_cons] at hnodup
  exact hnodup.1 (List.mem_map.mpr ⟨entry, hentry, heq⟩)

theorem insert (lists : r.Lists entries) (name : String) :
    (r.insert name).2.Lists ((⟨r.next⟩, ⟨name, none⟩) :: entries) where
  perm := List.perm_append_comm.trans (lists.perm.cons _)
  ordered := by
    simp only [ids, Registry.insert, List.map_append, List.map_cons,
      List.map_nil]
    rw [List.pairwise_append]
    refine ⟨lists.ordered, List.pairwise_singleton _ _, ?_⟩
    intro a ha b hb
    rw [List.mem_singleton] at hb
    subst hb
    exact lists.given a ha
  given := by
    intro a ha
    simp only [ids, Registry.insert, List.map_append, List.mem_append,
      List.map_cons, List.map_nil, List.mem_singleton] at ha
    rcases ha with old | rfl
    · exact Nat.lt_succ_of_lt (lists.given a old)
    · exact Nat.lt_succ_self _

theorem setBinding (lists : r.Lists ((id, record) :: entries))
    (binding : Option Binding) :
    (r.setBinding id binding).Lists
      ((id, { record with binding }) :: entries) := by
  let rebind : DeviceId × DeviceRecord → DeviceId × DeviceRecord :=
    fun entry =>
      if entry.1 = id then (entry.1, { entry.2 with binding }) else entry
  have same_ids := r.ids_setBinding id binding
  have others : entries.map rebind = entries := by
    refine (List.map_congr_left fun entry hentry => ?_).trans (List.map_id _)
    simp [rebind, lists.ne_of_mem hentry]
  refine ⟨?_, same_ids ▸ lists.ordered, same_ids ▸ lists.given⟩
  have perm := lists.perm.map rebind
  rw [List.map_cons, others] at perm
  simpa [rebind, Registry.setBinding] using perm

theorem remove (lists : r.Lists ((id, record) :: entries)) :
    (r.remove id).Lists entries where
  perm := by
    have perm := lists.perm.filter fun entry => entry.1 != id
    have others : entries.filter (fun entry => entry.1 != id) = entries := by
      refine List.filter_eq_self.mpr fun entry hentry => ?_
      simpa using lists.ne_of_mem hentry
    rw [List.filter_cons_of_neg (by simp), others] at perm
    exact perm
  ordered :=
    lists.ordered.sublist (List.filter_sublist.map Prod.fst)
  given := by
    intro a ha
    exact lists.given a ((List.filter_sublist.map Prod.fst).subset ha)

theorem get?_eq_some_iff (lists : r.Lists entries) :
    r.get? id = some record ↔ (id, record) ∈ entries := by
  rw [← lists.perm.mem_iff, Registry.get?, Option.map_eq_some_iff]
  constructor
  · rintro ⟨⟨key, _⟩, hfind, rfl⟩
    have hkey : key = id := by simpa using List.find?_some hfind
    exact hkey ▸ List.mem_of_find?_eq_some hfind
  · intro hmem
    rcases hfind : r.records.find? fun entry => entry.1 == id
      with _ | entry
    · rw [List.find?_eq_none] at hfind
      exact absurd (by simp) (hfind _ hmem)
    · have hkey : entry.1 = id := by simpa using List.find?_some hfind
      have distinct : (r.records.map Prod.fst).Nodup :=
        (lists.perm.map Prod.fst).nodup_iff.mpr lists.nodup
      have hsame : entry = (id, record) :=
        List.inj_on_of_nodup_map distinct (List.mem_of_find?_eq_some hfind)
          hmem hkey
      exact ⟨entry, hfind, by rw [hsame]⟩

theorem length_boundTo (lists : r.Lists entries) (binding : Binding) :
    (r.boundTo binding).length =
      entries.countP fun entry => entry.2.binding == some binding := by
  rw [boundTo, List.length_map, ← List.countP_eq_length_filter]
  exact lists.perm.countP_eq _

theorem pairwise_boundTo (lists : r.Lists entries) (binding : Binding) :
    (r.boundTo binding).Pairwise fun a b => a.number < b.number :=
  lists.ordered.sublist (List.filter_sublist.map Prod.fst)

end Lists
end Registry
end InterfaceManager

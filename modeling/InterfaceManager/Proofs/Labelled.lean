import InterfaceManager.Labelled

/-!
# Collections under labels

What is found under a label after a value was put there or taken away, and
that under distinct labels no value is lost with another one.
-/

namespace InterfaceManager

namespace Labelled

variable {entries : Labelled α} {label : String} {a : α}

@[simp] theorem at?_put (entries : Labelled α) (label : String) (a : α) :
    (entries.put label a).at? label = some a := by
  simp [put, at?]

theorem at?_without_of_ne (entries : Labelled α) {other : String}
    (different : other ≠ label) :
    (entries.without label).at? other = entries.at? other := by
  have same : (fun entry : String × α =>
      decide ((entry.1 != label) = true ∧ (entry.1 == other) = true)) =
        fun entry => entry.1 == other := by
    funext entry
    by_cases here : entry.1 = other
    · simp [here, different]
    · simp [here]
  simp only [without, at?, List.find?_filter, same]

theorem at?_put_of_ne (entries : Labelled α) {other : String}
    (different : other ≠ label) (a : α) :
    (entries.put label a).at? other = entries.at? other := by
  have elsewhere : (label == other) = false := by simpa using different.symm
  rw [← at?_without_of_ne entries different, put, at?, at?,
    List.find?_cons_of_neg (by simpa using elsewhere)]

/-- Putting a value where it is changes nothing. -/
theorem at?_put_self (found : entries.at? label = some a) (other : String) :
    (entries.put label a).at? other = entries.at? other := by
  by_cases same : other = label
  · rw [same, at?_put, found]
  · exact at?_put_of_ne entries same a

theorem not_mem_without (entries : Labelled α) (label : String) :
    label ∉ (entries.without label).map Prod.fst := by
  simp [without]

theorem nodup_without (nodup : (entries.map Prod.fst).Nodup)
    (label : String) : ((entries.without label).map Prod.fst).Nodup :=
  nodup.sublist (List.filter_sublist.map Prod.fst)

theorem nodup_put (nodup : (entries.map Prod.fst).Nodup)
    (label : String) (a : α) : ((entries.put label a).map Prod.fst).Nodup :=
  List.nodup_cons.mpr
    ⟨not_mem_without entries label, nodup_without nodup label⟩

/-- Without a value under the label there is nothing to leave out. -/
theorem without_of_at?_eq_none (missing : entries.at? label = none) :
    entries.without label = entries := by
  rw [at?, Option.map_eq_none_iff, List.find?_eq_none] at missing
  refine List.filter_eq_self.mpr fun entry hentry => ?_
  simpa using missing entry hentry

theorem at?_map (g : α → β) (entries : Labelled α) (label : String) :
    at? (entries.map fun entry => (entry.1, g entry.2)) label =
      (entries.at? label).map g := by
  rw [at?, at?, List.find?_map, Option.map_map, Option.map_map]
  rfl

theorem without_map (g : α → β) (entries : Labelled α) (label : String) :
    without (entries.map fun entry => (entry.1, g entry.2)) label =
      (entries.without label).map fun entry => (entry.1, g entry.2) := by
  rw [without, without, List.filter_map]
  rfl

theorem put_map (g : α → β) (entries : Labelled α) (label : String) (a : α) :
    put (entries.map fun entry => (entry.1, g entry.2)) label (g a) =
      (entries.put label a).map fun entry => (entry.1, g entry.2) := by
  rw [put, put, without_map, List.map_cons]

theorem mem_of_at? (found : entries.at? label = some a) :
    (label, a) ∈ entries := by
  rw [at?, Option.map_eq_some_iff] at found
  obtain ⟨⟨key, value⟩, hfind, rfl⟩ := found
  have hkey : key = label := by simpa using List.find?_some hfind
  exact hkey ▸ List.mem_of_find?_eq_some hfind

/-- The value under a label beside all others. -/
theorem perm_of_at? (nodup : (entries.map Prod.fst).Nodup)
    (found : entries.at? label = some a) :
    entries.Perm ((label, a) :: entries.without label) := by
  induction entries with
  | nil => cases mem_of_at? found
  | cons entry rest ih =>
    obtain ⟨key, value⟩ := entry
    rw [List.map_cons, List.nodup_cons] at nodup
    by_cases hkey : key = label
    · subst hkey
      have hvalue : value = a := by simpa [at?] using found
      have others : without rest key = rest := by
        refine List.filter_eq_self.mpr fun other hother => ?_
        have different : other.1 ≠ key := fun h =>
          nodup.1 (List.mem_map.mpr ⟨other, hother, h⟩)
        simpa using different
      have skipped : without ((key, value) :: rest) key = without rest key := by
        simp [without]
      rw [skipped, others, hvalue]
    · have later : at? rest label = some a := by
        have hbeq : (key == label) = false := by simpa using hkey
        simpa [at?, hbeq] using found
      have kept : without ((key, value) :: rest) label =
          (key, value) :: without rest label := by
        simp [without, hkey]
      rw [kept]
      exact ((ih nodup.2 later).cons _).trans (.swap _ _ _)

end Labelled

end InterfaceManager

import InterfaceManager.Json.Decode

/-!
# Readings of numbers and records

A natural within the bound of a reading reads back from its JSON form.  An
object whose members are sorted by key shows the same value under every key as
the members it was made of, and reading a record depends only on which members
there are and on what is found under each key.
-/

namespace InterfaceManager.Json

variable {key : String} {v : Json} {ms ns : List (String × Json)}

theorem asNatBelow_nat {n bound : Nat} (small : n < bound)
    (fits : bound ≤ UInt64.size) (expected : String) :
    asNatBelow bound expected (.nat n) = .ok n := by
  have same : n.toUInt64.toNat = n := by
    simp [Nat.mod_eq_of_lt (Nat.lt_of_lt_of_le small fits)]
  rw [Json.nat, asNatBelow, same, if_pos small]

theorem asUInt32_nat (n : UInt32) : asUInt32 (.nat n.toNat) = .ok n := by
  rw [asUInt32, asNatBelow_nat n.toNat_lt (by decide)]
  simp [Except.map]

theorem asNatBelow_lt {bound : Nat} {expected : String} {v : Json} {n : Nat}
    (reads : asNatBelow bound expected v = .ok n) : n < bound := by
  unfold asNatBelow at reads
  split at reads
  · split at reads
    · next small =>
      cases reads
      exact small
    · cases reads
  · cases reads
  · cases reads

@[simp] theorem lookup?_nil (key : String) : lookup? key [] = none := rfl

@[simp] theorem lookup?_cons (key k : String) (v : Json)
    (ms : List (String × Json)) :
    lookup? key ((k, v) :: ms) =
      if k = key then some v else lookup? key ms := by
  by_cases same : k = key <;> simp [lookup?, same]

theorem mem_of_lookup? (found : lookup? key ms = some v) :
    (key, v) ∈ ms := by
  induction ms with
  | nil => cases found
  | cons m ms ih =>
    obtain ⟨k, w⟩ := m
    rw [lookup?_cons] at found
    split at found
    · next same =>
      cases found
      exact same ▸ List.mem_cons_self
    · exact List.mem_cons_of_mem _ (ih found)

/-- Leaving out members by their keys does not hide other keys. -/
theorem lookup?_filter (keep : String → Bool) (kept : keep key = true)
    (ms : List (String × Json)) :
    lookup? key (ms.filter fun m => keep m.1) = lookup? key ms := by
  induction ms with
  | nil => rfl
  | cons m ms ih =>
    obtain ⟨k, w⟩ := m
    rw [List.filter_cons, lookup?_cons]
    split
    · rw [lookup?_cons, ih]
    · next dropped =>
      have other : k ≠ key := fun same => dropped (same ▸ kept)
      rw [if_neg other, ih]

/-! ## Sorted members -/

theorem lookup?_insertMember (key k : String) (v : Json)
    (ms : List (String × Json)) :
    lookup? key (insertMember k v ms) =
      if k = key then some v else lookup? key ms := by
  induction ms with
  | nil => rw [insertMember, lookup?_cons]
  | cons m ms ih =>
    obtain ⟨other, w⟩ := m
    rw [insertMember]
    split
    · next same =>
      subst same
      simp only [lookup?_cons]
      split <;> rfl
    · next different =>
      split
      · rw [lookup?_cons]
      · rw [lookup?_cons, lookup?_cons, ih]
        by_cases here : other = key
        · have later : k ≠ key := fun same => different (same.trans here.symm)
          rw [if_pos here, if_neg later, if_pos here]
        · rw [if_neg here, if_neg here]

theorem mem_insertMember {m : String × Json}
    (mem : m ∈ insertMember key v ms) : m = (key, v) ∨ m ∈ ms := by
  induction ms with
  | nil => exact Or.inl (List.mem_singleton.mp mem)
  | cons n ms ih =>
    obtain ⟨other, w⟩ := n
    rw [insertMember] at mem
    split at mem
    · exact (List.mem_cons.mp mem).imp_right (List.mem_cons_of_mem _)
    · split at mem
      · exact List.mem_cons.mp mem
      · rcases List.mem_cons.mp mem with rfl | later
        · exact Or.inr List.mem_cons_self
        · exact (ih later).imp_right (List.mem_cons_of_mem _)

/-- Members among `ns` that show the same value under every key. -/
structure Agrees (ms ns : List (String × Json)) : Prop where
  lookup?_eq : ∀ key, lookup? key ms = lookup? key ns
  subset : ∀ m ∈ ms, m ∈ ns

theorem Agrees.refl (ms : List (String × Json)) : Agrees ms ms :=
  ⟨fun _ => rfl, fun _ mem => mem⟩

theorem lookup?_foldl_insertMember (distinct : (ms.map Prod.fst).Nodup)
    (acc : List (String × Json)) (key : String) :
    lookup? key (ms.foldl (fun acc (k, v) => insertMember k v acc) acc) =
      (lookup? key ms).or (lookup? key acc) := by
  induction ms generalizing acc with
  | nil => rfl
  | cons m ms ih =>
    obtain ⟨k, v⟩ := m
    rw [List.map_cons, List.nodup_cons] at distinct
    rw [List.foldl_cons, ih distinct.2, lookup?_insertMember, lookup?_cons]
    by_cases same : k = key
    · have once : lookup? key ms = none := by
        rw [Option.eq_none_iff_forall_ne_some]
        intro w found
        exact distinct.1 (List.mem_map.mpr
          ⟨(key, w), mem_of_lookup? found, same.symm⟩)
      rw [once, if_pos same, if_pos same]
      rfl
    · rw [if_neg same, if_neg same]

theorem mem_foldl_insertMember {acc : List (String × Json)}
    {m : String × Json}
    (mem : m ∈ ms.foldl (fun acc (k, v) => insertMember k v acc) acc) :
    m ∈ ms ∨ m ∈ acc := by
  induction ms generalizing acc with
  | nil => exact Or.inr mem
  | cons n ms ih =>
    rcases ih mem with later | sooner
    · exact Or.inl (List.mem_cons_of_mem _ later)
    · rcases mem_insertMember sooner with rfl | before
      · exact Or.inl List.mem_cons_self
      · exact Or.inr before

/-- Sorting members with distinct keys keeps what is found under each. -/
theorem ofMembers_agrees (distinct : (ms.map Prod.fst).Nodup) :
    ∃ ns, ofMembers ms = .object ns ∧ Agrees ns ms := by
  refine ⟨_, rfl, fun key => ?_, fun m mem => ?_⟩
  · rw [lookup?_foldl_insertMember distinct, lookup?_nil, Option.or_none]
  · exact (mem_foldl_insertMember mem).resolve_right List.not_mem_nil

/-! ## Fields of a record -/

variable {checks : List (String × (Json → Except Misfit Unit))}

theorem bind_ok {r : Except ε α} {f : α → Except ε β} {b : β}
    (done : r >>= f = .ok b) : ∃ a, r = .ok a ∧ f a = .ok b := by
  cases r with
  | error e => cases done
  | ok a => exact ⟨a, rfl, done⟩

theorem bind_eq_error_iff {r : Except ε α} {f : α → Except ε β} {e : ε} :
    r >>= f = .error e ↔ r = .error e ∨ ∃ a, r = .ok a ∧ f a = .error e := by
  cases r <;> simp [bind, Except.bind]

theorem exists_bind_ok_iff {r : Except ε α} {f : α → Except ε β} :
    (∃ b, r >>= f = .ok b) ↔ ∃ a, r = .ok a ∧ ∃ b, f a = .ok b := by
  cases r <;> simp [bind, Except.bind]

theorem forM_ok {act : α → Except ε Unit} {as : List α}
    (done : ∀ a ∈ as, act a = .ok ()) : as.forM act = .ok () := by
  induction as with
  | nil => rfl
  | cons a as ih =>
    rw [List.forM, done a List.mem_cons_self]
    exact ih fun b mem => done b (List.mem_cons_of_mem _ mem)

theorem forM_eq_ok_iff {act : α → Except ε Unit} {as : List α} :
    as.forM act = .ok () ↔ ∀ a ∈ as, act a = .ok () := by
  refine ⟨fun done => ?_, forM_ok⟩
  induction as with
  | nil => simp
  | cons a as ih =>
    rw [List.forM] at done
    obtain ⟨_, first, rest⟩ := bind_ok done
    exact List.forall_mem_cons.mpr ⟨first, ih rest⟩

/-- A pass over a list fails at the first element that fails. -/
theorem forM_eq_error_iff {act : α → Except ε Unit} {as : List α} {e : ε} :
    as.forM act = .error e ↔
      ∃ before a after, as = before ++ a :: after ∧
        (∀ b ∈ before, act b = .ok ()) ∧ act a = .error e := by
  induction as with
  | nil =>
    constructor
    · intro fails
      cases fails
    · rintro ⟨before, a, after, split, -⟩
      cases before <;> cases split
  | cons a as ih =>
    rw [List.forM, bind_eq_error_iff, ih]
    constructor
    · rintro (first | ⟨_, good, before, b, after, rfl, pass, fails⟩)
      · exact ⟨[], a, as, rfl, by simp, first⟩
      · exact ⟨a :: before, b, after, rfl,
          List.forall_mem_cons.mpr ⟨good, pass⟩, fails⟩
    · rintro ⟨_ | ⟨c, before⟩, b, after, split, pass, fails⟩
      · cases split
        exact Or.inl fails
      · cases split
        rw [List.forall_mem_cons] at pass
        exact Or.inr ⟨(), pass.1, before, b, after, rfl, pass.2, fails⟩

/-- An object passes its checks if every member passes the checks for its
key. -/
theorem Fields.check_named
    (pass : ∀ m ∈ ms, ∀ check ∈ checks, check.1 = m.1 →
      check.2 m.2 = .ok ()) :
    Fields.check checks (.named ms) = .ok () := by
  refine forM_ok fun (key, v) mem => ?_
  rcases found : checks.find? (fun check => check.1 == key) with
    _ | ⟨k, check⟩
  · simp only [found]
  · have same : k = key := by simpa using List.find?_some found
    simp only [found]
    exact pass (key, v) mem (k, check) (List.mem_of_find?_eq_some found) same

theorem Fields.required_named {read : Reading α} {a : α}
    (shape : RecordShape) (found : lookup? key ms = some v)
    (reads : read v = .ok a) :
    Fields.required shape key read (.named ms) = .ok a := by
  simp only [Fields.required, found, reads]

/-- A required field that was read is a value with that reading. -/
theorem Fields.required_ok {shape : RecordShape} {read : Reading α}
    {fields : Fields} {a : α}
    (reads : fields.required shape key read = .ok a) :
    ∃ v, read v = .ok a := by
  cases fields with
  | named ms =>
    rcases found : lookup? key ms with _ | v
    · simp [Fields.required, found] at reads
    · exact ⟨v, by simpa [Fields.required, found] using reads⟩
  | listed items =>
    rcases found : items[shape.names.idxOf key]? with _ | v
    · simp [Fields.required, found] at reads
    · exact ⟨v, by simpa [Fields.required, found] using reads⟩

end InterfaceManager.Json

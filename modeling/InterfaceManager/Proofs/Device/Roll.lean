import InterfaceManager.Proofs.Device.Registry
import Mathlib.Data.List.Sort
import Mathlib.Data.List.TakeWhile

/-!
# The roll of devices

The changes made to a registry decide which records it should hold: every
device that was entered has one until it is taken out, with the interface
that it was bound to last.  Listed in the order in which the devices were
entered, these records are the roll.  A registry holds the roll of its
history, so everything that can be asked of it can be read off the history.
-/

namespace InterfaceManager

inductive RegistryStep where
  | insert (name : String)
  | take (id : DeviceId)
  | bind (id : DeviceId) (binding : Binding)
  | unbind (id : DeviceId)
  deriving DecidableEq, Repr

namespace RegistryStep

def enters : RegistryStep → Bool
  | insert _ => true
  | _ => false

theorem enters_cases (s : RegistryStep) :
    (∃ name, s = insert name) ∨ s.enters = false := by
  cases s with
  | insert name => exact .inl ⟨name, rfl⟩
  | take id => exact .inr rfl
  | bind id binding => exact .inr rfl
  | unbind id => exact .inr rfl

/-- What a step sets the binding of a device to, if it does. -/
def rebinds? (id : DeviceId) : RegistryStep → Option (Option Binding)
  | bind other binding => if other = id then some (some binding) else none
  | unbind other => if other = id then some none else none
  | _ => none

/-- What becomes of the record of a device in the course of further steps. -/
def outlast? (later : List RegistryStep) (entry : DeviceId × DeviceRecord) :
    Option (DeviceId × DeviceRecord) :=
  if take entry.1 ∈ later then none
  else some (entry.1, { entry.2 with
    binding :=
      (later.filterMap (rebinds? entry.1)).getLastD entry.2.binding })

end RegistryStep

/-- A device that was entered: its identity, its name, and the steps that
were made after that. -/
structure Admission where
  id : DeviceId
  name : String
  later : List RegistryStep

namespace Admission

/-- The device has not been taken out since. -/
def Stays (a : Admission) : Prop := .take a.id ∉ a.later

instance (a : Admission) : Decidable a.Stays :=
  inferInstanceAs (Decidable (_ ∉ _))

/-- What the device has been bound to last, unless it was released again. -/
def binding (a : Admission) : Option Binding :=
  (a.later.filterMap (RegistryStep.rebinds? a.id)).getLastD none

/-- The identity and the record that the device should have. -/
def entry (a : Admission) : DeviceId × DeviceRecord :=
  (a.id, ⟨a.name, a.binding⟩)

end Admission

open RegistryStep

/-- The devices that the steps enter, oldest first.  They are numbered from
`next` on. -/
def admissions (next : Nat) : List RegistryStep → List Admission
  | [] => []
  | .insert name :: later =>
    ⟨⟨next⟩, name, later⟩ :: admissions (next + 1) later
  | _ :: later => admissions next later

/-- The records of the devices that the steps enter and do not take out
again. -/
def roll (next : Nat) (steps : List RegistryStep) :
    List (DeviceId × DeviceRecord) :=
  ((admissions next steps).filter fun a => a.Stays).map Admission.entry

section Admissions

variable {next : Nat} {steps : List RegistryStep} {a b : Admission}

theorem admissions_of_not_enters {s : RegistryStep} (quiet : s.enters = false)
    (next : Nat) (later : List RegistryStep) :
    admissions next (s :: later) = admissions next later := by
  rcases s with name | id | ⟨id, binding⟩ | id
  · cases quiet
  · rfl
  · rfl
  · rfl

theorem ids_admissions (next : Nat) (steps : List RegistryStep) :
    (admissions next steps).map Admission.id =
      (List.range' next (steps.countP enters)).map DeviceId.mk := by
  induction steps generalizing next with
  | nil => rfl
  | cons s later ih =>
    rcases s.enters_cases with ⟨name, rfl⟩ | quiet
    · rw [admissions, List.map_cons, ih, List.countP_cons_of_pos rfl,
        List.range'_succ, List.map_cons]
    · rw [admissions_of_not_enters quiet, ih,
        List.countP_cons_of_neg (by simp [quiet])]

theorem pairwise_admissions (next : Nat) (steps : List RegistryStep) :
    ((admissions next steps).map Admission.id).Pairwise
      fun a b => a.number < b.number := by
  rw [ids_admissions, List.pairwise_map]
  exact List.pairwise_lt_range'

/-- A device is entered only once. -/
theorem eq_of_mem_admissions (ha : a ∈ admissions next steps)
    (hb : b ∈ admissions next steps) (same : a.id = b.id) : a = b := by
  have distinct : ((admissions next steps).map Admission.id).Nodup := by
    refine (pairwise_admissions next steps).imp ?_
    rintro a _ hlt rfl
    exact Nat.lt_irrefl _ hlt
  exact List.inj_on_of_nodup_map distinct ha hb same

/-- Further steps come after every device entered before them. -/
theorem mem_admissions_append (ha : a ∈ admissions next steps)
    (more : List RegistryStep) :
    { a with later := a.later ++ more } ∈ admissions next (steps ++ more) := by
  induction steps generalizing next with
  | nil => cases ha
  | cons s later ih =>
    rw [List.cons_append]
    rcases s.enters_cases with ⟨name, rfl⟩ | quiet
    · rw [admissions] at ha ⊢
      rcases List.mem_cons.mp ha with rfl | old
      · exact List.mem_cons_self
      · exact List.mem_cons_of_mem _ (ih old)
    · rw [admissions_of_not_enters quiet] at ha ⊢
      exact ih ha

end Admissions

namespace Registry

def step (r : Registry) : RegistryStep → Registry
  | .insert name => (r.insert name).2
  | .take id => (r.take id).2
  | .bind id binding => r.bind id binding
  | .unbind id => r.unbind id

/-- The registry after steps made one after another. -/
def run (r : Registry) (steps : List RegistryStep) : Registry :=
  steps.foldl step r

/-- The identities that are given to the devices entered by the steps. -/
def issued (r : Registry) : List RegistryStep → List DeviceId
  | [] => []
  | .insert name :: later =>
    (r.insert name).1 :: issued (r.insert name).2 later
  | s :: later => issued (r.step s) later

variable {r : Registry} {id : DeviceId} {record : DeviceRecord}
  {steps : List RegistryStep}

theorem run_cons (r : Registry) (s : RegistryStep)
    (later : List RegistryStep) :
    r.run (s :: later) = (r.step s).run later := rfl

theorem run_append (r : Registry) (steps more : List RegistryStep) :
    r.run (steps ++ more) = (r.run steps).run more :=
  List.foldl_append

theorem issued_eq (r : Registry) (steps : List RegistryStep) :
    r.issued steps = (admissions r.next steps).map Admission.id := by
  induction steps generalizing r with
  | nil => rfl
  | cons s later ih =>
    cases s with
    | insert name => exact congrArg (⟨r.next⟩ :: ·) (ih (r.insert name).2)
    | take id => exact ih (r.take id).2
    | bind id binding => exact ih (r.bind id binding)
    | unbind id => exact ih (r.unbind id)

/-! ## Records -/

theorem outlast?_nil (entry : DeviceId × DeviceRecord) :
    outlast? [] entry = some entry := by
  simp [outlast?]

theorem outlast?_insert (name : String) (later : List RegistryStep)
    (entry : DeviceId × DeviceRecord) :
    outlast? (.insert name :: later) entry = outlast? later entry := by
  simp [outlast?, rebinds?]

theorem outlast?_take (id : DeviceId) (later : List RegistryStep)
    (entry : DeviceId × DeviceRecord) :
    outlast? (.take id :: later) entry =
      if entry.1 != id then outlast? later entry else none := by
  by_cases same : entry.1 = id
  · simp [outlast?, same]
  · simp [outlast?, rebinds?, same]

/-- A step that sets the binding of a device has its effect at once. -/
theorem outlast?_rebind {s : RegistryStep} {binding : Option Binding}
    (sets : ∀ key, rebinds? key s = if id = key then some binding else none)
    (stays : ∀ key, s ≠ .take key) (later : List RegistryStep)
    (entry : DeviceId × DeviceRecord) :
    outlast? (s :: later) entry =
      outlast? later (if entry.1 = id
        then (entry.1, { entry.2 with binding }) else entry) := by
  have kept : RegistryStep.take entry.1 ≠ s := (stays entry.1).symm
  by_cases same : entry.1 = id
  · subst same
    have last : (s :: later).filterMap (rebinds? entry.1) =
        binding :: later.filterMap (rebinds? entry.1) :=
      List.filterMap_cons_some (by rw [sets, if_pos rfl])
    rw [if_pos rfl, outlast?, outlast?, last, List.getLastD_cons]
    simp only [List.mem_cons, kept, false_or]
  · simp [outlast?, sets, kept, same, Ne.symm same]

/-- A device that has just been entered has its entry until it is taken
out. -/
theorem outlast?_admission (a : Admission) :
    outlast? a.later (a.id, ⟨a.name, none⟩) =
      if a.Stays then some a.entry else none := by
  by_cases stays : a.Stays
  · rw [if_pos stays, outlast?, if_neg stays]
    rfl
  · rw [if_neg stays, outlast?, if_pos (Decidable.not_not.mp stays)]

theorem roll_insert (next : Nat) (name : String) (later : List RegistryStep) :
    roll next (.insert name :: later) =
      [(⟨next⟩, ⟨name, none⟩)].filterMap (outlast? later) ++
        roll (next + 1) later := by
  let a : Admission := ⟨⟨next⟩, name, later⟩
  have alone : [(a.id, (⟨a.name, none⟩ : DeviceRecord))].filterMap
      (outlast? a.later) = ([a].filter fun a => a.Stays).map Admission.entry := by
    by_cases stays : a.Stays <;>
      simp [outlast?_admission, stays]
  rw [alone, roll, roll, ← List.map_append, ← List.filter_append]
  rfl

/-- The registry holds what is left of the records that it had, and the roll
of the devices entered since. -/
theorem records_run (r : Registry) (steps : List RegistryStep) :
    (r.run steps).records =
      r.records.filterMap (outlast? steps) ++ roll r.next steps := by
  induction steps generalizing r with
  | nil => simp [run, roll, admissions, funext outlast?_nil]
  | cons s later ih =>
    have rebound : ∀ (id : DeviceId) (binding : Option Binding),
        (∀ key, rebinds? key s = if id = key then some binding else none) →
        (∀ key, s ≠ .take key) →
        (r.setBinding id binding).records.filterMap (outlast? later) =
          r.records.filterMap (outlast? (s :: later)) := by
      intro id binding sets stays
      rw [records_setBinding, List.filterMap_map]
      exact List.filterMap_congr fun entry _ =>
        (outlast?_rebind sets stays later entry).symm
    rw [run_cons, ih]
    cases s with
    | insert name =>
      rw [roll_insert, ← List.append_assoc, funext (outlast?_insert name later),
        ← List.filterMap_append]
      rfl
    | take id =>
      rw [funext (outlast?_take id later), ← List.filterMap_filter]
      rfl
    | bind id binding =>
      rw [← rebound id (some binding) (fun _ => rfl) fun _ => nofun]
      rfl
    | unbind id =>
      rw [← rebound id none (fun _ => rfl) fun _ => nofun]
      rfl

/-- A registry that was empty at first holds the roll of its history. -/
theorem records_run_empty (steps : List RegistryStep) :
    (empty.run steps).records = roll 0 steps :=
  records_run empty steps

/-! ## What is known about a device -/

theorem lists_step (lists : r.Lists r.records) (s : RegistryStep) :
    (r.step s).Lists (r.step s).records := by
  have rebound : ∀ (id : DeviceId) (binding : Option Binding),
      (r.setBinding id binding).Lists (r.setBinding id binding).records := by
    intro id binding
    have same := ids_setBinding r id binding
    exact ⟨.refl _, same ▸ lists.ordered, same ▸ lists.given⟩
  cases s with
  | insert name =>
    exact (lists.insert name).of_perm (List.perm_append_singleton _ _).symm
  | take id =>
    have fewer : (r.remove id).ids.Sublist r.ids :=
      List.filter_sublist.map Prod.fst
    exact ⟨.refl _, lists.ordered.sublist fewer,
      fun a ha => lists.given a (fewer.subset ha)⟩
  | bind id binding => exact rebound id (some binding)
  | unbind id => exact rebound id none

theorem lists_run (lists : r.Lists r.records) (steps : List RegistryStep) :
    (r.run steps).Lists (r.run steps).records := by
  induction steps generalizing r with
  | nil => exact lists
  | cons s later ih => exact ih (lists_step lists s)

/-- The identity of a new device is greater than all others, so that it comes
last also if the records are kept by identity. -/
theorem records_insert (lists : r.Lists r.records) (name : String) :
    (r.insert name).2.records =
      r.records.orderedInsert (fun a b => a.1.number ≤ b.1.number)
        (⟨r.next⟩, ⟨name, none⟩) := by
  have earlier : ∀ entry ∈ r.records, ¬ r.next ≤ entry.1.number :=
    fun entry member => Nat.not_le_of_lt
      (lists.given entry.1 (List.mem_map_of_mem member))
  have before : r.records.takeWhile (fun b => ¬ r.next ≤ b.1.number) =
      r.records :=
    List.takeWhile_eq_self_iff.mpr fun entry member =>
      decide_eq_true (earlier entry member)
  have after : r.records.dropWhile (fun b => ¬ r.next ≤ b.1.number) = [] :=
    List.dropWhile_eq_nil_iff.mpr fun entry member =>
      decide_eq_true (earlier entry member)
  rw [List.orderedInsert_eq_take_drop, before, after]
  rfl

theorem get?_run_eq_some_iff :
    (empty.run steps).get? id = some record ↔
      ∃ a ∈ admissions 0 steps, a.id = id ∧ a.Stays ∧
        record = ⟨a.name, a.binding⟩ := by
  rw [(lists_run lists_empty steps).get?_eq_some_iff, records_run_empty, roll,
    List.mem_map]
  constructor
  · rintro ⟨a, member, same⟩
    obtain ⟨admitted, stays⟩ := List.mem_filter.mp member
    cases same
    exact ⟨a, admitted, rfl, of_decide_eq_true stays, rfl⟩
  · rintro ⟨a, admitted, rfl, stays, rfl⟩
    exact ⟨a, List.mem_filter.mpr ⟨admitted, decide_eq_true stays⟩, rfl⟩

theorem mem_issued_iff :
    id ∈ empty.issued steps ↔ ∃ a ∈ admissions 0 steps, a.id = id := by
  rw [issued_eq, List.mem_map]
  rfl

theorem get?_run_eq_none_iff :
    (empty.run steps).get? id = none ↔
      id ∉ empty.issued steps ∨
        ∃ a ∈ admissions 0 steps, a.id = id ∧ ¬ a.Stays := by
  constructor
  · intro unknown
    by_cases entered : id ∈ empty.issued steps
    · obtain ⟨a, admitted, same⟩ := mem_issued_iff.mp entered
      refine .inr ⟨a, admitted, same, fun stays => ?_⟩
      have known := get?_run_eq_some_iff.mpr ⟨a, admitted, same, stays, rfl⟩
      rw [unknown] at known
      cases known
    · exact .inl entered
  · intro gone
    apply Option.eq_none_iff_forall_ne_some.mpr
    intro record known
    obtain ⟨a, admitted, same, stays, -⟩ := get?_run_eq_some_iff.mp known
    rcases gone with never | ⟨b, admitted', same', taken⟩
    · exact never (mem_issued_iff.mpr ⟨a, admitted, same⟩)
    · rw [eq_of_mem_admissions admitted' admitted (same'.trans same.symm)]
        at taken
      exact taken stays

/-- A device that has been taken out never comes back. -/
theorem get?_run_of_taken (entered : id ∈ empty.issued steps)
    (more : List RegistryStep) :
    (((empty.run steps).remove id).run more).get? id = none := by
  have history : ((empty.run steps).remove id).run more =
      empty.run (steps ++ .take id :: more) :=
    (run_append empty steps (.take id :: more)).symm
  obtain ⟨a, admitted, same⟩ := mem_issued_iff.mp entered
  rw [history]
  refine get?_run_eq_none_iff.mpr (.inr
    ⟨_, mem_admissions_append admitted (.take id :: more), same, ?_⟩)
  intro stays
  apply stays
  subst same
  exact List.mem_append_right _ List.mem_cons_self

theorem get?_eq_none_iff :
    r.get? id = none ↔ ∀ entry ∈ r.records, entry.1 ≠ id := by
  simp [get?]

/-- Nothing happens to a device that is not known. -/
theorem setBinding_of_unknown (unknown : r.get? id = none)
    (binding : Option Binding) : r.setBinding id binding = r := by
  have same : (r.setBinding id binding).records = r.records := by
    rw [records_setBinding]
    refine (List.map_congr_left fun entry member => ?_).trans (List.map_id _)
    exact if_neg (get?_eq_none_iff.mp unknown entry member)
  exact congrArg (Registry.mk r.next) same

theorem mem_boundTo_iff (lists : r.Lists r.records) {binding : Binding} :
    id ∈ r.boundTo binding ↔
      ∃ record, r.get? id = some record ∧ record.binding = some binding := by
  simp only [lists.get?_eq_some_iff]
  simp [boundTo]

/-! ## After any history -/

/-- What a registry shows after any steps can be read off their history.
Devices are numbered in the order in which they are entered, so identities
grow and none is given twice.  The records are in the order of the identities,
and a new one takes its place in this order at the end.  The names are those
of the devices that have not been taken out, oldest first.  A device is
unknown exactly if it was never entered or has been taken out; any other one
has the name that it was entered with, and is bound as it was bound or
released last.  Taking a device out gives what was known about it, and nothing
from then on.  To bind or to release an unknown device changes nothing.  The
devices bound to an interface are just those that remain and were bound to it
last, in the order of their identities. -/
theorem run_follows_history (steps : List RegistryStep) :
    let r := empty.run steps
    let issued := empty.issued steps
    let admitted := admissions 0 steps
    let remaining := admitted.filter fun a => a.Stays
    issued = (List.range (steps.countP enters)).map DeviceId.mk ∧
    issued.Pairwise (fun a b => a.number < b.number) ∧
    admitted.map Admission.id = issued ∧
    r.ids.Pairwise (fun a b => a.number < b.number) ∧
    (∀ name, (r.insert name).2.records =
      r.records.orderedInsert (fun a b => a.1.number ≤ b.1.number)
        (⟨r.next⟩, ⟨name, none⟩)) ∧
    r.names = remaining.map Admission.name ∧
    r.size = remaining.length ∧
    (∀ id, r.get? id = none ↔
      id ∉ issued ∨ ∃ a ∈ admitted, a.id = id ∧ ¬ a.Stays) ∧
    (∀ id record, r.get? id = some record ↔
      ∃ a ∈ admitted, a.id = id ∧ a.Stays ∧ record = ⟨a.name, a.binding⟩) ∧
    (∀ id, (r.take id).1 = r.get? id ∧
      (id ∈ issued → ∀ more, (((r.take id).2.run more).take id).1 = none)) ∧
    (∀ id, r.get? id = none →
      (∀ binding, r.bind id binding = r) ∧ r.unbind id = r) ∧
    ∀ binding,
      (r.boundTo binding).Pairwise (fun a b => a.number < b.number) ∧
      ∀ id, id ∈ r.boundTo binding ↔
        ∃ a ∈ remaining, a.id = id ∧ a.binding = some binding := by
  intro r issued admitted remaining
  have admits : issued = admitted.map Admission.id := issued_eq empty steps
  have records : r.records = remaining.map Admission.entry :=
    records_run_empty steps
  have lists : r.Lists r.records := lists_run lists_empty steps
  refine ⟨?_, ?_, admits.symm, lists.ordered, records_insert lists, ?_, ?_,
    fun _ => get?_run_eq_none_iff, fun _ _ => get?_run_eq_some_iff,
    ?_, ?_, ?_⟩
  · rw [admits, ids_admissions, List.range_eq_range']
  · rw [admits]
    exact pairwise_admissions 0 steps
  · rw [names, records, List.map_map]
    rfl
  · rw [size, records, List.length_map]
  · intro id
    exact ⟨rfl, get?_run_of_taken⟩
  · intro id unknown
    exact ⟨fun binding => setBinding_of_unknown unknown (some binding),
      setBinding_of_unknown unknown none⟩
  · intro binding
    refine ⟨lists.pairwise_boundTo binding, fun id => ?_⟩
    rw [mem_boundTo_iff lists]
    constructor
    · rintro ⟨record, known, bound⟩
      obtain ⟨a, member, same, stays, rfl⟩ := get?_run_eq_some_iff.mp known
      exact ⟨a, List.mem_filter.mpr ⟨member, decide_eq_true stays⟩, same,
        bound⟩
    · rintro ⟨a, remains, same, bound⟩
      obtain ⟨member, stays⟩ := List.mem_filter.mp remains
      exact ⟨⟨a.name, a.binding⟩, get?_run_eq_some_iff.mpr
        ⟨a, member, same, of_decide_eq_true stays, rfl⟩, bound⟩

/-- A device that has been taken out is not bound again, and its number is
not used again. -/
example :
    (empty.run [.insert "a", .insert "b", .take ⟨0⟩,
      .bind ⟨0⟩ ⟨"ns", ⟨5⟩⟩, .insert "c"]).records =
      [(⟨1⟩, ⟨"b", none⟩), (⟨2⟩, ⟨"c", none⟩)] := by
  decide

end Registry
end InterfaceManager

import InterfaceManager.Proofs.Outcome

/-!
# Remarks

The notices of a journal come from everywhere.  The remarks among them are
those about devices, which the library takes itself: devices come and go,
register, are changed or observed, share an interface, or are refused
because their context has been closed.  What pools, scopes, providers and
interfaces note in passing is left out, so that the remarks tell what has
become of the devices.
-/

namespace InterfaceManager

/-- Whether a notice is about a device, or about the use of a closed
context. -/
def Notice.isRemark : Notice → Bool
  | contextAlreadyClosed .. | deviceAllocated .. | deviceFreed _
  | registrationFailed _ | interfaceShared .. | bringing ..
  | addingAddress .. | addingRoute .. | observationIgnored ..
  | lifecycle .. => true
  | _ => false

/-- Whether a notice says that an operation has been refused because its
context had been closed. -/
def Notice.isRefusal : Notice → Bool
  | contextAlreadyClosed .. => true
  | _ => false

namespace Session

/-- The remarks made so far, oldest first. -/
def remarks (s : Session η) : List Notice :=
  (s.journal.entries.toList.map Entry.notice).filter Notice.isRemark

theorem remarks_noting (s : Session η) (n : Notice) :
    (s.noting n).remarks =
      s.remarks ++ if n.isRemark then [n] else [] := by
  by_cases hremark : n.isRemark = true <;>
    simp [remarks, noting, Journal.take, hremark]

/-- A notice in passing leaves the remarks as they are. -/
theorem remarks_noting_passing {s : Session η} {n : Notice}
    (passing : n.isRemark = false) : (s.noting n).remarks = s.remarks := by
  simp [remarks_noting, passing]

/-- No operation has been refused because its context had been closed. -/
def Unrefused (s : Session η) : Prop :=
  ∀ netns operation,
    Notice.contextAlreadyClosed netns operation ∉ s.remarks

theorem unrefused_of_remarks_eq {s t : Session η}
    (same : t.remarks = s.remarks) (unrefused : s.Unrefused) :
    t.Unrefused := by
  intro netns operation
  rw [same]
  exact unrefused netns operation

theorem Unrefused.noting {s : Session η} (unrefused : s.Unrefused)
    {n : Notice} (other : n.isRefusal = false) : (s.noting n).Unrefused := by
  intro netns operation hmem
  rw [remarks_noting, List.mem_append] at hmem
  rcases hmem with old | new
  · exact unrefused netns operation old
  · split at new
    · rw [List.mem_singleton] at new
      rw [← new] at other
      cases other
    · cases new

end Session

/-- The change of a device that a notice reports, with the name of the
device. -/
def Notice.change? : Notice → Option (String × Change)
  | lifecycle device change => some (device, change)
  | _ => none

namespace Session

/-- The changes of devices reported so far, oldest first. -/
def changes (s : Session η) : List (String × Change) :=
  s.journal.entries.toList.filterMap fun entry => entry.notice.change?

/-- Changes are reported by remarks. -/
theorem changes_eq (s : Session η) :
    s.changes = s.remarks.filterMap Notice.change? := by
  have remarked : (fun n : Notice =>
      if n.isRemark then n.change? else none) = Notice.change? := by
    funext n
    cases n <;> rfl
  rw [remarks, List.filterMap_filter, remarked, List.filterMap_map]
  rfl

theorem changes_eq_of_remarks_eq {s t : Session η}
    (same : t.remarks = s.remarks) : t.changes = s.changes := by
  rw [changes_eq, changes_eq, same]

theorem changes_noting (s : Session η) (n : Notice) :
    (s.noting n).changes = s.changes ++ n.change?.toList := by
  rcases reported : n.change? with _ | change <;>
    simp [changes, noting, Journal.take, reported]

theorem changes_noting_other {s : Session η} {n : Notice}
    (other : n.change? = none) : (s.noting n).changes = s.changes := by
  simp [changes_noting, other]

end Session

namespace Action

/-- The action makes no remarks. -/
def Discreet (act : Action (Session η) α) : Prop :=
  ∀ s, (outcome act s).2.remarks = s.remarks

theorem Discreet.unrefused {act : Action (Session η) α}
    (discreet : act.Discreet) : act.Keeps Session.Unrefused := fun s =>
  Session.unrefused_of_remarks_eq (discreet s)

/-! ## Calm actions -/

/-- The action answers and makes no remarks. -/
structure Calm (act : Action (Session η) α) : Prop where
  answers : act.Answers
  discreet : act.Discreet

namespace Calm

theorem pure (a : α) : (pure a : Action (Session η) α).Calm :=
  ⟨.pure a, fun _ => rfl⟩

theorem fail (e : Error) : (fail e : Action (Session η) α).Calm :=
  ⟨.fail e, fun _ => rfl⟩

theorem bind {act : Action (Session η) α} {next : α → Action (Session η) β}
    (hact : act.Calm) (hnext : ∀ a, (next a).Calm) :
    (act >>= next).Calm := by
  refine ⟨hact.answers.bind fun a => (hnext a).answers, fun s => ?_⟩
  have before := hact.discreet s
  rw [outcome_bind]
  rcases houtcome : outcome act s with ⟨f | a, t⟩
  · rw [houtcome] at before
    exact before
  · rw [houtcome] at before
    exact ((hnext a).discreet t).trans before

theorem get : (get : Action (Session η) (Session η)).Calm :=
  ⟨.get, fun _ => rfl⟩

/-- A change of the host alone is calm. -/
theorem modify {g : Session η → Session η}
    (host : ∀ s, (g s).journal = s.journal) :
    (modify g : Action (Session η) PUnit).Calm := by
  refine ⟨.modify g, fun s => ?_⟩
  rw [outcome_modify, Session.remarks, host s]
  rfl

theorem note {n : Notice} (passing : n.isRemark = false) :
    (Session.note n : Action (Session η) Unit).Calm :=
  ⟨.modify _, fun _ => Session.remarks_noting_passing passing⟩

/-- An action on a part of the host is as calm as it is on that part. -/
theorem focus {view : Session η → Session τ}
    {set : Session τ → Session η → Session η} {act : Action (Session τ) α}
    (viewed : ∀ s, (view s).journal = s.journal)
    (kept : ∀ t s, (set t s).journal = t.journal) (hact : act.Calm) :
    (focus view set act).Calm := by
  refine ⟨hact.answers.focus view set, fun s => ?_⟩
  have inner := hact.discreet (view s)
  simp only [Session.remarks] at inner ⊢
  rw [outcome_focus, kept, inner, viewed]

end Calm
end Action

end InterfaceManager

import InterfaceManager.Proofs.Namespace.Pools

/-!
# The calls of a step

A step can be made with a record of its calls of the provider.  What a
session keeps through notices and switches it keeps through every step that
acquires nothing.  So handles are opened by acquisitions alone, and by those
only that create a context with a name.
-/

namespace InterfaceManager

open InterfaceManager.Action

/-- Giving a context back takes notices, counts users, closes a handle and
forgets a name, and nothing else. -/
theorem Pooled.release_keeps {J : Pooled η → Prop}
    (notes : ∀ n, (note n : Action (Pooled η) Unit).Keeps J)
    (recounts : ∀ p name refcount, J p →
      J { p with pool := p.pool.setRefcount name refcount })
    (closes : ∀ p held, J p →
      J { p with contexts := p.contexts.close held })
    (erases : ∀ p name, J p → J { p with pool := p.pool.erase name })
    (context : Context) : (release context).Keeps J := by
  have close_keeps : ∀ held, (close held).Keeps J := by
    intro held
    refine Keeps.get.bind fun p => ?_
    split
    · exact Keeps.bind (.modify fun p => closes p held) fun _ => notes _
    · exact .pure _ ()
  refine Keeps.get.bind fun p => ?_
  split
  · exact .panic _ _
  · split
    · exact .panic _ _
    · split
      · exact .panic _ _
      · refine Keeps.bind (.modify fun p => recounts p _ _) fun _ => ?_
        refine (notes _).bind fun _ => ?_
        split
        · refine (close_keeps _).bind fun _ => ?_
          exact Keeps.bind (.modify fun p => erases p _) fun _ => notes _
        · exact .pure _ ()

section Session

variable {I : Session η → Prop} (notes : ∀ n, (Session.note n).Keeps I)

include notes

theorem Pooled.release_keeps_session (context : Context) :
    (release context).Keeps fun p => I p.session := by
  refine release_keeps ?_ (fun _ _ _ hp => hp) (fun _ _ hp => hp)
    (fun _ _ hp => hp) context
  intro n p hp
  rw [outcome_note]
  exact notes n p.session hp

/-- An acquisition takes notices and may open a handle. -/
theorem Pooled.acquire_keeps {provider : NamespaceProvider η}
    (opens : ∀ name, (provider.openHandle name).Keeps I) (name : String) :
    (acquire provider name).Keeps fun p => I p.session := by
  intro p hp
  rcases Option.eq_none_or_eq_some (p.pool.lease? name)
    with missing | ⟨lease, found⟩
  · by_cases default : name = ""
    · subst default
      rw [outcome_acquire_default provider missing]
      exact notes _ p.session hp
    · have opened := opens name _ (notes (.contextPrepared name) _ hp)
      rw [Session.outcome_note] at opened
      rcases opening : outcome (provider.openHandle name)
        (p.session.noting (.contextPrepared name)) with ⟨f | handle, t⟩ <;>
        rw [opening] at opened
      · rw [outcome_acquire_unopened provider missing default opening]
        exact opened
      · rw [outcome_acquire_opened provider missing default opening]
        exact notes _ t opened
  · rw [outcome_acquire_shared provider found]
    exact notes _ p.session hp

end Session

namespace Pools

variable {s : Pools η} {i : Nat} {name : String}

/-- A step that acquires nothing keeps of the session what notices, switches
and adjustments keep. -/
theorem step_keeps_session (provider : NamespaceProvider η)
    (adjust : η → ε → η) {I : Session η → Prop}
    (notes : ∀ n, (Session.note n).Keeps I)
    (enters : ∀ handle, (provider.enter handle).Keeps I)
    (exits : ∀ state, (provider.exit state).Keeps I)
    (adjusts : ∀ s change, I s → I { s with host := adjust s.host change })
    {next : PoolsStep ε}
    (acquires : ∀ i name label, next ≠ .acquire i name label) :
    (step provider adjust next).Keeps fun s => I s.session := by
  by_cases releases : ∃ i label, next = .release i label
  · obtain ⟨i, label, rfl⟩ := releases
    refine Keeps.get.bind fun s => ?_
    split
    · next context _ =>
      refine Keeps.bind (.modify fun _ hs => hs) fun _ => ?_
      have gives : (onPool i (Pooled.release context) :
          Action (Pools η) Unit).Keeps fun s => I s.session := by
        intro t ht
        rw [outcome_onPool]
        exact Pooled.release_keeps_session notes context (t.pooled i) ht
      exact gives.bind fun _ => .pure _ _
    · exact .pure _ _
  · exact step_keeps provider adjust notes enters exits adjusts
      (fun _ keeps => keeps.focus fun _ _ => rfl) (fun _ _ _ hs => hs)
      acquires fun i label same => releases ⟨i, label, same⟩

/-! ## Steps on record -/

/-- The pools with a record of calls beside the host. -/
def record (s : Pools η) (calls : List κ) : Pools (Recorded κ η) where
  session := s.session.record calls
  contexts := s.contexts
  pools := s.pools
  kept := s.kept
  scopes := s.scopes

/-- What happens to a host from outside leaves the record of calls alone. -/
def adjustRecorded (adjust : η → ε → η) (recorded : Recorded κ η)
    (change : ε) : Recorded κ η :=
  { recorded with host := adjust recorded.host change }

/-- The step with a record of its calls of the provider. -/
def recordedStep (provider : NamespaceProvider η) (adjust : η → ε → η)
    (next : PoolsStep ε) (s : Pools η) :
    Outcome (PoolsReply (Recorded ProviderEvent η)) ×
      Pools (Recorded ProviderEvent η) :=
  outcome (step (provider.recorded id) (adjustRecorded adjust) next)
    (s.record [])

def calls (provider : NamespaceProvider η) (adjust : η → ε → η)
    (next : PoolsStep ε) (s : Pools η) : List ProviderEvent :=
  (recordedStep provider adjust next s).2.session.host.calls

/-- The name that a call opens a handle of. -/
def openedName : ProviderEvent → Option String
  | .opened name _ => some name
  | _ => none

section Record

variable (provider : NamespaceProvider η) (adjust : η → ε → η)

theorem recorded_keeps (act : Action (Session η) α) (event : Outcome α → κ)
    (opened? : κ → Option String)
    (unopened : ∀ answer, opened? (event answer) = none) :
    (act.recorded event).Keeps fun s : Session (Recorded κ η) =>
      s.host.calls.filterMap opened? = [] := by
  intro s silent
  rw [outcome_recorded_eq]
  simp [silent, unopened]

/-- Handles are opened by acquisitions alone. -/
theorem calls_open_nothing {next : PoolsStep ε}
    (acquires : ∀ i name label, next ≠ .acquire i name label)
    (s : Pools η) :
    (calls provider adjust next s).filterMap openedName = [] := by
  have keeps := step_keeps_session (provider.recorded id)
    (adjustRecorded adjust)
    (I := fun s => s.host.calls.filterMap openedName = [])
    (fun _ _ silent => silent)
    (fun handle => recorded_keeps _ _ openedName fun _ => rfl)
    (fun state => recorded_keeps _ _ openedName fun _ => rfl)
    (fun _ _ silent => silent) acquires
  exact keeps (s.record []) rfl

/-- An acquisition calls the provider once, for a handle, if it creates a
context with a name, and otherwise not at all. -/
theorem calls_acquire (i : Nat) (name label : String) (s : Pools η) :
    calls provider adjust (.acquire i name label) s =
      if (s.pool i).get? name = none ∧ name ≠ "" then
        [.opened name (outcome (provider.openHandle name)
          (s.session.noting (.contextPrepared name))).1]
      else [] := by
  rcases tracked : (s.pool i).get? name with _ | held
  · have missing : (s.pool i).lease? name = none :=
      Option.map_eq_none_iff.mp tracked
    by_cases default : name = ""
    · subst default
      have acquiring := Pooled.outcome_acquire_default (provider.recorded id)
        (p := (s.record []).pooled i) missing
      rw [calls, recordedStep,
        outcome_step_acquired _ (adjustRecorded adjust) acquiring]
      simp [keeping, withPooled, Pooled.added, record, pooled]
    · have opening := provider.outcome_recorded_openHandle id
        (s.session.noting (.contextPrepared name)) [] name
      rcases answered : outcome (provider.openHandle name)
          (s.session.noting (.contextPrepared name)) with ⟨f | handle, t⟩
      · rw [answered] at opening
        have acquiring := Pooled.outcome_acquire_unopened
          (provider.recorded id) (p := (s.record []).pooled i) missing default
          opening
        rw [calls, recordedStep,
          outcome_step_unacquired _ (adjustRecorded adjust) acquiring]
        simp [withPooled, default]
      · rw [answered] at opening
        have acquiring := Pooled.outcome_acquire_opened
          (provider.recorded id) (p := (s.record []).pooled i) missing default
          opening
        rw [calls, recordedStep,
          outcome_step_acquired _ (adjustRecorded adjust) acquiring]
        simp [keeping, withPooled, Pooled.added, default]
  · obtain ⟨lease, found, -⟩ := Pool.exists_lease_of_get? tracked
    have acquiring := Pooled.outcome_acquire_shared (provider.recorded id)
      (p := (s.record []).pooled i) found
    rw [calls, recordedStep,
      outcome_step_acquired _ (adjustRecorded adjust) acquiring]
    simp [keeping, withPooled, record, pooled]

end Record

end Pools
end InterfaceManager

import InterfaceManager.Proofs.Namespace.Scope

/-!
# How runs fail

A run inside a namespace fails with the error of its operation or with one of
a switch.  The error of the operation is the answer if and only if the thread
was switched into the namespace and back; otherwise the failed switch is.
-/

namespace InterfaceManager

open InterfaceManager.Action

/-- The error says that the thread could not be switched, there or back. -/
def Error.isSwitchFailure : Error → Bool
  | namespaceSwitch .. | namespaceRestore .. => true
  | _ => false

theorem Error.isSwitchFailure_withPrimary {e : Error}
    (switch : e.isSwitchFailure = true) (failure : Error) :
    (e.withPrimary failure).isSwitchFailure = true := by
  cases e with
  | namespaceRestore netns message primary => cases primary <;> rfl
  | namespaceSwitch netns message => rfl
  | _ => cases switch

namespace Scope

variable {provider : NamespaceProvider η} {context : Context}
  {handle : Option Handle} {operation : String} {s t : Session η} {e : Error}

theorem isSwitchFailure_switchError (netns : String) (e : Error) :
    (switchError netns e).isSwitchFailure = true := by
  cases e <;> rfl

theorem isSwitchFailure_restoreError (netns : String) (e : Error) :
    (restoreError netns e).isSwitchFailure = true := by
  cases e <;> rfl

theorem isSwitchFailure_of_enter
    (entering : outcome (enter provider context handle operation) s =
      (.error (.error e), t)) : e.isSwitchFailure = true := by
  cases named : context.isDefault with
  | true =>
    rw [outcome_enter_default provider handle operation s named] at entering
    cases entering
  | false =>
    cases handle with
    | none =>
      rw [outcome_enter_closed provider operation s named] at entering
      cases entering
      rfl
    | some handle =>
      rw [outcome_enter_open provider handle operation s named] at entering
      split at entering <;> cases entering
      exact isSwitchFailure_switchError _ _

theorem isSwitchFailure_of_exit {scope : Scope}
    (leaving : outcome (scope.exit provider) s = (.error (.error e), t)) :
    e.isSwitchFailure = true := by
  obtain ⟨operation, saved⟩ := scope
  cases saved with
  | none => cases leaving
  | some state =>
    rw [exit, outcome_restore] at leaving
    split at leaving <;> cases leaving
    exact isSwitchFailure_restoreError _ _

end Scope

section Runs

variable {provider : NamespaceProvider η} {context : Context}
  {handle : Option Handle} {operation : String} {act : Action (Session η) α}
  {s t : Session η} {e : Error}

/-- The thread is switched for an operation and switched back after it. -/
def SwitchesBack (provider : NamespaceProvider η) (context : Context)
    (handle : Option Handle) (operation : String)
    (act : Action (Session η) α) (s : Session η) : Prop :=
  ∃ scope t,
    outcome (Scope.enter provider context handle operation) s =
      (.ok scope, t) ∧
    (outcome (scope.exit provider) (outcome act t).2).1 = .ok ()

/-- What a run fails with is a failed switch, or its operation has failed with
it. -/
theorem runInNamespace_error_cases
    (running : outcome
      (runInNamespace provider context handle operation act) s =
        (.error (.error e), t)) :
    e.isSwitchFailure = true ∨
      ∃ u, (outcome act u).1 = .error (.error e) := by
  rw [outcome_runInNamespace_eq] at running
  rcases entering : outcome
      (Scope.enter provider context handle operation) s with ⟨f | scope, u⟩
  · rw [entering] at running
    cases running
    exact Or.inl (Scope.isSwitchFailure_of_enter entering)
  · rw [entering] at running
    obtain ⟨ended, -⟩ := Prod.mk.inj running
    rcases leaving : outcome (scope.exit provider) (outcome act u).2
      with ⟨(restore | message) | ⟨⟩, v⟩
    · have failed := Scope.isSwitchFailure_of_exit leaving
      rw [leaving] at ended
      rcases acting : (outcome act u).1 with (failure | message) | value <;>
        rw [acting] at ended <;> cases ended
      · exact Or.inl (Error.isSwitchFailure_withPrimary failed failure)
      · exact Or.inl failed
    · rw [leaving] at ended
      rcases acting : (outcome act u).1 with (failure | message) | value <;>
        rw [acting] at ended <;> cases ended
    · rw [leaving, Scope.ending_ok] at ended
      exact Or.inr ⟨u, ended⟩

theorem switchesBack_iff {scope : Scope}
    (entering : outcome
      (Scope.enter provider context handle operation) s = (.ok scope, t)) :
    SwitchesBack provider context handle operation act s ↔
      (outcome (scope.exit provider) (outcome act t).2).1 = .ok () := by
  constructor
  · rintro ⟨scope', t', entered, left⟩
    rw [entering] at entered
    cases entered
    exact left
  · intro left
    exact ⟨scope, t, entering, left⟩

/-- An operation that always fails is the failure of a run if and only if the
switches succeed. -/
theorem runInNamespace_of_failing
    (enters : ∀ handle, (provider.enter handle).Answers)
    (exits : ∀ state, (provider.exit state).Answers)
    (context : Context) (handle : Option Handle) (operation : String)
    (fails : ∀ u, (outcome act u).1 = .error (.error e))
    (other : e.isSwitchFailure = false) (s : Session η) :
    ∃ answer t,
      outcome (runInNamespace provider context handle operation act) s =
        (.error (.error answer), t) ∧
      (answer.isSwitchFailure = true ∨ answer = e) ∧
      (answer = e ↔
        SwitchesBack provider context handle operation act s) := by
  have answers : act.Answers := by
    intro u message
    rw [fails]
    simp
  have runs := runInNamespace_answers enters exits context handle operation
    answers s
  have ends : outcome
      (runInNamespace provider context handle operation act) s = _ :=
    outcome_runInNamespace_eq provider operation act s handle
  have distinct : ∀ answer : Error, answer.isSwitchFailure = true →
      answer ≠ e := by
    rintro answer failed rfl
    rw [failed] at other
    cases other
  rcases entering : outcome
      (Scope.enter provider context handle operation) s with ⟨f | scope, u⟩
  · rw [entering] at ends
    rcases f with answer | message
    · have failed := Scope.isSwitchFailure_of_enter entering
      refine ⟨answer, u, ends, Or.inl failed,
        iff_of_false (distinct answer failed) ?_⟩
      rintro ⟨scope, t, entered, -⟩
      rw [entering] at entered
      cases entered
    · exact absurd (congrArg Prod.fst ends) (runs message)
  · rw [switchesBack_iff entering]
    rw [entering] at ends
    dsimp only at ends
    rcases leaving : outcome (scope.exit provider) (outcome act u).2
      with ⟨(restore | message) | ⟨⟩, v⟩
    · have failed := Error.isSwitchFailure_withPrimary
        (Scope.isSwitchFailure_of_exit leaving) e
      rw [leaving, fails] at ends
      exact ⟨restore.withPrimary e, v, ends, Or.inl failed,
        iff_of_false (distinct _ failed) (by simp)⟩
    · rw [leaving, fails] at ends
      exact absurd (congrArg Prod.fst ends) (runs message)
    · rw [leaving, fails] at ends
      exact ⟨e, v, ends, Or.inr rfl, iff_of_true rfl rfl⟩

end Runs
end InterfaceManager

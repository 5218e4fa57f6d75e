import InterfaceManager.Namespace.Scope
import InterfaceManager.Proofs.Recording
import InterfaceManager.Proofs.Remarks

/-!
# The protocol of a scoped switch

What a run inside a namespace does, given what the provider and the
operation answer.  The lemmas follow the order of the calls: the switch in,
the operation, the switch back.  The main statement reads the protocol off
the record of one run: which calls were made, in which order and how often,
and how the run ends for these answers.
-/

namespace InterfaceManager

open InterfaceManager.Action

namespace Scope

theorem outcome_enter_default
    (provider : NamespaceProvider η) {context : Context}
    (handle : Option Handle) (operation : String) (s : Session η)
    (default : context.isDefault = true) :
    outcome (enter provider context handle operation) s =
      (.ok ⟨operation, none⟩, s) := by
  simp [enter, default]

theorem outcome_enter_closed
    (provider : NamespaceProvider η) {context : Context}
    (operation : String) (s : Session η)
    (named : context.isDefault = false) :
    outcome (enter provider context none operation) s =
      (.error (.error (.namespaceSwitch context.name closedMessage)),
        s.noting (.contextAlreadyClosed context.name operation)) := by
  simp [enter, named, outcome_bind]

theorem outcome_enter_open
    (provider : NamespaceProvider η) {context : Context}
    (handle : Handle) (operation : String) (s : Session η)
    (named : context.isDefault = false) :
    outcome (enter provider context (some handle) operation) s =
      match outcome (provider.enter handle)
          (s.noting (.switching context.name operation)) with
      | (.ok state, t) => (.ok ⟨operation, some state⟩, t)
      | (.error (.error e), t) =>
        (.error (.error (switchError context.name e)),
          t.noting (.switchFailed context.name operation e))
      | (.error (.panic message), t) => (.error (.panic message), t) := by
  simp only [enter, named, outcome_bind, Session.outcome_note,
    outcome_attempt, Bool.false_eq_true, if_false]
  rcases outcome (provider.enter handle) _ with ⟨(e | message) | state, t⟩ <;>
    simp [outcome_bind]

theorem outcome_restore
    (provider : NamespaceProvider η) (operation : String)
    (state : SwitchState) (s : Session η) :
    outcome (restore provider operation state) s =
      match outcome (provider.exit state) s with
      | (.ok (), t) =>
        (.ok (), t.noting (.switchedBack state.target operation))
      | (.error (.error e), t) =>
        (.error (.error (restoreError state.target e)),
          t.noting (.switchBackFailed state.target operation e))
      | (.error (.panic message), t) => (.error (.panic message), t) := by
  simp only [restore, outcome_bind, outcome_attempt]
  rcases outcome (provider.exit state) s with ⟨(e | message) | ⟨⟩, t⟩ <;>
    simp [outcome_bind]

/-- Switching back does nothing to the host but what the provider does. -/
theorem host_restore
    (provider : NamespaceProvider η) (operation : String)
    (state : SwitchState) (s : Session η) :
    (outcome (restore provider operation state) s).2.host =
      (outcome (provider.exit state) s).2.host := by
  rw [outcome_restore]
  rcases outcome (provider.exit state) s with ⟨(e | message) | ⟨⟩, t⟩ <;> rfl

theorem outcome_restore_recorded
    (event : ProviderEvent → κ) (provider : NamespaceProvider η)
    (operation : String) (state : SwitchState) (s : Session η)
    (calls : List κ) :
    outcome (restore (provider.recorded event) operation state)
        (s.record calls) =
      let back := outcome (restore provider operation state) s
      (back.1, back.2.record
        (calls ++ [event (.left state (outcome (provider.exit state) s).1)])) := by
  simp only [outcome_restore, NamespaceProvider.outcome_recorded_exit]
  rcases outcome (provider.exit state) s with ⟨(e | message) | ⟨⟩, t⟩ <;> rfl

/-- How a run ends when its operation and its switch back ended as given. -/
def ending : Outcome α → Outcome Unit → Outcome α
  | answer, .ok () => answer
  | .ok _, .error f => .error f
  | .error (.error e), .error (.error restore) =>
    .error (.error (restore.withPrimary e))
  | .error (.error _), .error (.panic message) => .error (.panic message)
  | .error (.panic message), .error (.error _) => .error (.panic message)
  | .error (.panic _), .error (.panic message) => .error (.panic message)

/-- After a successful switch back a run ends as its operation did. -/
theorem ending_ok (answer : Outcome α) : ending answer (.ok ()) = answer := by
  simp [ending]

/-- A run comes to a value only if its operation did and the switch back
succeeded. -/
theorem eq_ok_of_ending {answer : Outcome α} {back : Outcome Unit} {value : α}
    (ended : ending answer back = .ok value) :
    answer = .ok value ∧ back = .ok () := by
  rcases back with f | ⟨⟩
  · rcases answer with (e | message) | other <;>
      rcases f with restore | message <;> cases ended
  · exact ⟨(ending_ok answer).symm.trans ended, rfl⟩

end Scope

/-! ## Runs inside a namespace -/

section Runs

variable (provider : NamespaceProvider η) {context : Context}
  (operation : String) (act : Action (Session η) α) (s : Session η)

/-- In the default namespace a run is its operation. -/
theorem outcome_runInNamespace_default
    (handle : Option Handle) (default : context.isDefault = true) :
    outcome (runInNamespace provider context handle operation act) s =
      outcome act s := by
  simp only [runInNamespace, outcome_bind, outcome_attempt,
    Scope.outcome_enter_default provider handle operation s default]
  rcases outcome act s with ⟨(e | message) | value, t⟩ <;>
    simp [outcome_bind, Scope.exit, Scope.drop]

theorem outcome_runInNamespace_closed (named : context.isDefault = false) :
    outcome (runInNamespace provider context none operation act) s =
      (.error (.error (.namespaceSwitch context.name Scope.closedMessage)),
        s.noting (.contextAlreadyClosed context.name operation)) := by
  simp only [runInNamespace, outcome_bind,
    Scope.outcome_enter_closed provider operation s named]

theorem outcome_runInNamespace_refused
    (handle : Handle) (named : context.isDefault = false) {e : Error}
    {t : Session η}
    (entering : outcome (provider.enter handle)
      (s.noting (.switching context.name operation)) =
        (.error (.error e), t)) :
    outcome (runInNamespace provider context (some handle) operation act) s =
      (.error (.error (Scope.switchError context.name e)),
        t.noting (.switchFailed context.name operation e)) := by
  simp only [runInNamespace, outcome_bind, entering,
    Scope.outcome_enter_open provider handle operation s named]

theorem outcome_runInNamespace_enter_panic
    (handle : Handle) (named : context.isDefault = false)
    {message : String} {t : Session η}
    (entering : outcome (provider.enter handle)
      (s.noting (.switching context.name operation)) =
        (.error (.panic message), t)) :
    outcome (runInNamespace provider context (some handle) operation act) s =
      (.error (.panic message), t) := by
  simp only [runInNamespace, outcome_bind, entering,
    Scope.outcome_enter_open provider handle operation s named]

/-- Once the thread has been switched, a run is its operation and the switch
back, whatever either of them ends in. -/
theorem outcome_runInNamespace_entered
    (handle : Handle) (named : context.isDefault = false)
    {state : SwitchState} {t : Session η}
    (entering : outcome (provider.enter handle)
      (s.noting (.switching context.name operation)) = (.ok state, t)) :
    outcome (runInNamespace provider context (some handle) operation act) s =
      let back :=
        outcome (Scope.restore provider operation state) (outcome act t).2
      (Scope.ending (outcome act t).1 back.1, back.2) := by
  simp only [runInNamespace, outcome_bind, entering, outcome_attempt,
    Scope.outcome_enter_open provider handle operation s named]
  rcases outcome act t with ⟨(e | message) | value, u⟩ <;>
    simp only [outcome_bind, Scope.exit, Scope.drop, outcome_attempt] <;>
    rcases outcome (Scope.restore provider operation state) u
      with ⟨(e | message) | ⟨⟩, v⟩ <;>
    simp [Scope.ending]

/-- A run is entering a scope, the operation, and leaving the scope. -/
theorem outcome_runInNamespace_eq (handle : Option Handle) :
    outcome (runInNamespace provider context handle operation act) s =
      match outcome (Scope.enter provider context handle operation) s with
      | (.error f, t) => (.error f, t)
      | (.ok scope, t) =>
        let left := outcome (scope.exit provider) (outcome act t).2
        (Scope.ending (outcome act t).1 left.1, left.2) := by
  simp only [runInNamespace, outcome_bind]
  rcases outcome (Scope.enter provider context handle operation) s
    with ⟨f | scope, t⟩
  · rfl
  · simp only [outcome_attempt]
    rcases outcome act t with ⟨(e | message) | value, u⟩ <;>
      simp only [outcome_bind, Scope.drop, outcome_attempt] <;>
      rcases outcome (scope.exit provider) u
        with ⟨(e | message) | ⟨⟩, v⟩ <;>
      simp [Scope.ending]

end Runs

theorem Scope.restore_answers {provider : NamespaceProvider η}
    {state : SwitchState} (answers : (provider.exit state).Answers)
    (operation : String) : (restore provider operation state).Answers := by
  intro s message
  rw [Scope.outcome_restore]
  rcases answers.cases s with ⟨⟨⟩, t, hexit⟩ | ⟨e, t, hexit⟩ <;>
    rw [hexit] <;> simp

theorem Scope.restore_discreet {provider : NamespaceProvider η}
    {state : SwitchState} (discreet : (provider.exit state).Discreet)
    (operation : String) : (restore provider operation state).Discreet := by
  intro s
  have exited := discreet s
  rw [Scope.outcome_restore]
  rcases hexit : outcome (provider.exit state) s
    with ⟨(e | message) | ⟨⟩, t⟩
  · rw [hexit] at exited
    exact (Session.remarks_noting_passing rfl).trans exited
  · rw [hexit] at exited
    exact exited
  · rw [hexit] at exited
    exact (Session.remarks_noting_passing rfl).trans exited

/-- A run panics only if the provider or the operation does. -/
theorem runInNamespace_answers {provider : NamespaceProvider η}
    (enters : ∀ handle, (provider.enter handle).Answers)
    (exits : ∀ state, (provider.exit state).Answers)
    (context : Context) (handle : Option Handle) (operation : String)
    {act : Action (Session η) α} (answers : act.Answers) :
    (runInNamespace provider context handle operation act).Answers := by
  intro s message
  cases named : context.isDefault with
  | true =>
    rw [outcome_runInNamespace_default _ _ _ _ handle named]
    exact answers s message
  | false =>
    cases handle with
    | none =>
      rw [outcome_runInNamespace_closed _ _ _ _ named]
      simp
    | some handle =>
      rcases (enters handle).cases (s.noting (.switching context.name operation))
        with ⟨state, t, entering⟩ | ⟨e, t, entering⟩
      · rw [outcome_runInNamespace_entered _ _ _ _ handle named entering]
        rcases answers.cases t with ⟨a, u, hact⟩ | ⟨e, u, hact⟩ <;>
          rcases (Scope.restore_answers (exits state) operation).cases u
            with ⟨⟨⟩, v, hback⟩ | ⟨e, v, hback⟩ <;>
          simp [hact, hback, Scope.ending]
      · rw [outcome_runInNamespace_refused _ _ _ _ handle named entering]
        simp

/-- In a context that is open, a run remarks what its operation remarks. -/
theorem runInNamespace_keeps_remarks {provider : NamespaceProvider η}
    (enters : ∀ handle, (provider.enter handle).Discreet)
    (exits : ∀ state, (provider.exit state).Discreet)
    {context : Context} {handle : Option Handle}
    (isOpen : context.isDefault = true ∨ handle.isSome = true)
    (operation : String) {I : List Notice → Prop}
    {act : Action (Session η) α}
    (keeps : act.Keeps fun s => I s.remarks) :
    (runInNamespace provider context handle operation act).Keeps
      fun s => I s.remarks := by
  intro s hs
  cases named : context.isDefault with
  | true =>
    rw [outcome_runInNamespace_default _ _ _ _ handle named]
    exact keeps s hs
  | false =>
    rw [named] at isOpen
    obtain ⟨handle, rfl⟩ := Option.isSome_iff_exists.mp
      (isOpen.resolve_left Bool.false_ne_true)
    have asked : I (s.noting (.switching context.name operation)).remarks := by
      rw [Session.remarks_noting_passing rfl]
      exact hs
    have entered :=
      enters handle (s.noting (.switching context.name operation))
    rcases entering : outcome (provider.enter handle)
        (s.noting (.switching context.name operation))
      with ⟨(e | message) | state, t⟩
    · rw [entering] at entered
      rw [outcome_runInNamespace_refused _ _ _ _ handle named entering,
        Session.remarks_noting_passing rfl, entered]
      exact asked
    · rw [entering] at entered
      rw [outcome_runInNamespace_enter_panic _ _ _ _ handle named entering,
        entered]
      exact asked
    · rw [entering] at entered
      rw [outcome_runInNamespace_entered _ _ _ _ handle named entering]
      have inside : I t.remarks := entered ▸ asked
      rw [Scope.restore_discreet (exits state) operation]
      exact keeps t inside

/-! ## What runs keep -/

section Keeps

variable {I : Session η → Prop} {provider : NamespaceProvider η}
  (notes : ∀ n, (Session.note n).Keeps I)

include notes

theorem Scope.enter_keeps (enters : ∀ handle, (provider.enter handle).Keeps I)
    (context : Context) (handle : Option Handle) (operation : String) :
    (enter provider context handle operation).Keeps I := by
  intro s hs
  cases named : context.isDefault with
  | true =>
    rw [outcome_enter_default provider handle operation s named]
    exact hs
  | false =>
    cases handle with
    | none =>
      rw [outcome_enter_closed provider operation s named]
      exact notes _ s hs
    | some handle =>
      have asked : I (s.noting (.switching context.name operation)) :=
        notes _ s hs
      have entered := enters handle _ asked
      rw [outcome_enter_open provider handle operation s named]
      rcases entering : outcome (provider.enter handle)
          (s.noting (.switching context.name operation))
        with ⟨(e | message) | state, t⟩ <;> rw [entering] at entered
      · exact notes _ t entered
      · exact entered
      · exact entered

theorem Scope.restore_keeps {state : SwitchState}
    (exits : (provider.exit state).Keeps I) (operation : String) :
    (restore provider operation state).Keeps I := by
  intro s hs
  have left := exits s hs
  rw [outcome_restore]
  rcases leaving : outcome (provider.exit state) s
    with ⟨(e | message) | ⟨⟩, t⟩ <;> rw [leaving] at left
  · exact notes _ t left
  · exact left
  · exact notes _ t left

theorem Scope.exit_keeps (exits : ∀ state, (provider.exit state).Keeps I)
    (scope : Scope) : (scope.exit provider).Keeps I := by
  obtain ⟨operation, saved⟩ := scope
  cases saved with
  | none => exact .pure I ()
  | some state => exact Scope.restore_keeps notes (exits state) operation

theorem Scope.drop_keeps (exits : ∀ state, (provider.exit state).Keeps I)
    (scope : Scope) : (scope.drop provider).Keeps I := by
  refine (Scope.exit_keeps notes exits scope).attempt.bind fun answer => ?_
  split
  · exact .panic I _
  · exact .pure I ()

/-- A run keeps what the notices, the switches and its operation keep. -/
theorem runInNamespace_keeps
    (enters : ∀ handle, (provider.enter handle).Keeps I)
    (exits : ∀ state, (provider.exit state).Keeps I)
    (context : Context) (handle : Option Handle) (operation : String)
    {act : Action (Session η) α} (hact : act.Keeps I) :
    (runInNamespace provider context handle operation act).Keeps I := by
  refine (Scope.enter_keeps notes enters context handle operation).bind
    fun scope => ?_
  have leaves := Scope.exit_keeps notes exits scope
  refine hact.attempt.bind fun answer => ?_
  rcases answer with (e | message) | value
  · refine leaves.attempt.bind fun back => ?_
    rcases back with (restore | message) | ⟨⟩
    · exact .fail I _
    · exact .panic I _
    · exact .fail I _
  · exact (Scope.drop_keeps notes exits scope).bind fun _ => .panic I _
  · exact leaves.bind fun _ => .pure I _

end Keeps

/-! ## The protocol -/

/-- What is seen of a scoped run: calls of the provider and the operation. -/
inductive ScopeEvent (α : Type) where
  | call (event : ProviderEvent)
  | ran (answer : Outcome α)

/-- What a provider gives as the reason of a failure: the message of a failed
switch, and the whole wording of any other error. -/
def Error.reason : Error → String
  | .namespaceSwitch _ message => message
  | e => e.message

/-- The records that a run in the namespace of a context may leave, where
the context has the open handle given, and for each of them how the run
ends. -/
inductive SwitchProtocol (context : Context) (handle : Option Handle) :
    List (ScopeEvent α) → Outcome α → Prop
  /-- The default namespace needs no switch. -/
  | unswitched (default : context.isDefault = true) (answer : Outcome α) :
      SwitchProtocol context handle [.ran answer] answer
  /-- A closed context is refused without asking the provider. -/
  | closed (named : context.isDefault = false) (closed : handle = none) :
      SwitchProtocol context handle []
        (.error (.error
          (.namespaceSwitch context.name "Namespace context already closed")))
  /-- A failed switch in is the answer as it is. -/
  | refused (named : context.isDefault = false) {h : Handle}
      (opened : handle = some h) (netns message : String) :
      SwitchProtocol context handle
        [.call (.entered h (.error (.error (.namespaceSwitch netns message))))]
        (.error (.error (.namespaceSwitch netns message)))
  /-- Any other error of the switch in becomes a failed switch. -/
  | refusedOtherwise (named : context.isDefault = false) {h : Handle}
      (opened : handle = some h) {e : Error}
      (other : ∀ netns message, e ≠ .namespaceSwitch netns message) :
      SwitchProtocol context handle
        [.call (.entered h (.error (.error e)))]
        (.error (.error (.namespaceSwitch context.name e.message)))
  /-- After a successful switch back the run ends as its operation did. -/
  | returned (named : context.isDefault = false) {h : Handle}
      (opened : handle = some h) (state : SwitchState) (answer : Outcome α) :
      SwitchProtocol context handle
        [.call (.entered h (.ok state)), .ran answer,
          .call (.left state (.ok ()))]
        answer
  | stranded (named : context.isDefault = false) {h : Handle}
      (opened : handle = some h) (state : SwitchState) (value : α)
      (e : Error) :
      SwitchProtocol context handle
        [.call (.entered h (.ok state)), .ran (.ok value),
          .call (.left state (.error (.error e)))]
        (.error (.error (.namespaceRestore state.target e.reason none)))
  /-- A failed switch back carries the error of the operation. -/
  | strandedAfterError (named : context.isDefault = false) {h : Handle}
      (opened : handle = some h) (state : SwitchState) (failure e : Error) :
      SwitchProtocol context handle
        [.call (.entered h (.ok state)), .ran (.error (.error failure)),
          .call (.left state (.error (.error e)))]
        (.error (.error
          (.namespaceRestore state.target e.reason (some failure))))
  /-- A panic of the operation goes on whatever the switch back returns. -/
  | strandedAfterPanic (named : context.isDefault = false) {h : Handle}
      (opened : handle = some h) (state : SwitchState) (message : String)
      (e : Error) :
      SwitchProtocol context handle
        [.call (.entered h (.ok state)), .ran (.error (.panic message)),
          .call (.left state (.error (.error e)))]
        (.error (.panic message))
  /-- A provider that does not return ends the run. -/
  | enterPanicked (named : context.isDefault = false) {h : Handle}
      (opened : handle = some h) (message : String) :
      SwitchProtocol context handle
        [.call (.entered h (.error (.panic message)))]
        (.error (.panic message))
  | exitPanicked (named : context.isDefault = false) {h : Handle}
      (opened : handle = some h) (state : SwitchState) (answer : Outcome α)
      (message : String) :
      SwitchProtocol context handle
        [.call (.entered h (.ok state)), .ran answer,
          .call (.left state (.error (.panic message)))]
        (.error (.panic message))

theorem Scope.restoreError_eq (netns : String) (e : Error) :
    Scope.restoreError netns e = .namespaceRestore netns e.reason none := by
  cases e <;> rfl

/-- The record and the end of a run whose switch in failed. -/
theorem SwitchProtocol.of_enter_error
    {context : Context} {h : Handle} (named : context.isDefault = false)
    (e : Error) :
    SwitchProtocol (α := α) context (some h)
      [.call (.entered h (.error (.error e)))]
      (.error (.error (Scope.switchError context.name e))) := by
  by_cases switch : ∃ netns message, e = .namespaceSwitch netns message
  · obtain ⟨netns, message, rfl⟩ := switch
    exact .refused named rfl netns message
  · have other : ∀ netns message, e ≠ .namespaceSwitch netns message := by
      intro netns message equal
      exact switch ⟨netns, message, equal⟩
    have wrapped : Scope.switchError context.name e =
        .namespaceSwitch context.name e.message := by
      cases e with
      | namespaceSwitch netns message => exact absurd rfl (other netns message)
      | _ => rfl
    rw [wrapped]
    exact .refusedOtherwise named rfl other

/-- The record and the end of a run that was switched back, or was to be. -/
theorem SwitchProtocol.of_left
    {context : Context} {h : Handle} (named : context.isDefault = false)
    (provider : NamespaceProvider η) (operation : String)
    (state : SwitchState) (answer : Outcome α) (s : Session η) :
    SwitchProtocol context (some h)
      [.call (.entered h (.ok state)), .ran answer,
        .call (.left state (outcome (provider.exit state) s).1)]
      (Scope.ending answer
        (outcome (Scope.restore provider operation state) s).1) := by
  rw [Scope.outcome_restore]
  rcases outcome (provider.exit state) s with ⟨(e | message) | ⟨⟩, t⟩
  · simp only [Scope.restoreError_eq]
    rcases answer with (failure | panicked) | value
    · exact .strandedAfterError named rfl state failure e
    · exact .strandedAfterPanic named rfl state panicked e
    · exact .stranded named rfl state value e
  · rcases answer with (failure | panicked) | value <;>
      exact .exitPanicked named rfl state _ message
  · exact .returned named rfl state answer

/-- A record decides how the run ends. -/
theorem SwitchProtocol.unique {context : Context} {handle : Option Handle}
    {events : List (ScopeEvent α)} {result other : Outcome α}
    (first : SwitchProtocol context handle events result)
    (second : SwitchProtocol context handle events other) :
    result = other := by
  cases first with
  | refused named opened netns message =>
    cases second with
    | refused => rfl
    | refusedOtherwise _ _ distinct => exact absurd rfl (distinct netns message)
  | refusedOtherwise named opened distinct =>
    cases second with
    | refused _ _ netns message => exact absurd rfl (distinct netns message)
    | refusedOtherwise => rfl
  | _ =>
    cases second
    rfl

/-- A run leaves a record that the protocol allows.  The events may be put
on a record of other things too. -/
theorem exists_record_runInNamespace
    (event : ScopeEvent α → κ) (provider : NamespaceProvider η)
    (context : Context) (handle : Option Handle) (operation : String)
    (act : Action (Session η) α) (s : Session η) (calls : List κ) :
    ∃ events result t,
      outcome
          (runInNamespace (provider.recorded fun e => event (.call e)) context
            handle operation (act.recorded fun answer => event (.ran answer)))
          (s.record calls) =
        (result, t.record (calls ++ events.map event)) ∧
      outcome (runInNamespace provider context handle operation act) s =
        (result, t) ∧
      SwitchProtocol context handle events result := by
  cases named : context.isDefault with
  | true =>
    refine ⟨[.ran (outcome act s).1], (outcome act s).1,
      (outcome act s).2, ?_, ?_, .unswitched named _⟩
    · rw [outcome_runInNamespace_default _ _ _ _ handle named]
      simp
    · rw [outcome_runInNamespace_default _ _ _ _ handle named]
  | false =>
    cases handle with
    | none =>
      refine ⟨[], _, s.noting (.contextAlreadyClosed context.name operation),
        ?_, ?_, .closed named rfl⟩
      · rw [outcome_runInNamespace_closed _ _ _ _ named]
        simp [Scope.closedMessage]
      · rw [outcome_runInNamespace_closed _ _ _ _ named]
        rfl
    | some handle =>
      let asked := s.noting (.switching context.name operation)
      have recorded := provider.outcome_recorded_enter
        (fun e => event (.call e)) asked calls handle
      rcases entering : outcome (provider.enter handle) asked
        with ⟨(e | message) | state, t⟩
      · rw [entering] at recorded
        refine ⟨_, _, t.noting (.switchFailed context.name operation e),
          ?_, ?_, .of_enter_error named e⟩
        · rw [outcome_runInNamespace_refused _ _ _ _ handle named recorded]
          rfl
        · rw [outcome_runInNamespace_refused _ _ _ _ handle named entering]
      · rw [entering] at recorded
        refine ⟨_, _, t, ?_, ?_, .enterPanicked named rfl message⟩
        · rw [outcome_runInNamespace_enter_panic _ _ _ _ handle named recorded]
          rfl
        · rw [outcome_runInNamespace_enter_panic _ _ _ _ handle named entering]
      · rw [entering] at recorded
        let back := outcome (Scope.restore provider operation state)
          (outcome act t).2
        refine ⟨_, _, back.2, ?_, ?_, .of_left named provider operation state
          (outcome act t).1 (outcome act t).2⟩
        · rw [outcome_runInNamespace_entered _ _ _ _ handle named recorded]
          simp only [outcome_recorded, Scope.outcome_restore_recorded,
            List.append_assoc]
          rfl
        · rw [outcome_runInNamespace_entered _ _ _ _ handle named entering]

/-- The record of a run is one that the protocol allows, with the calls made
exactly as often and in the order it says, and the run ends in the one way
that the protocol has for this record.  Recording does not change the run. -/
theorem runInNamespace_follows_protocol
    (provider : NamespaceProvider η) (context : Context)
    (handle : Option Handle) (operation : String)
    (act : Action (Session η) α) (s : Session η) :
    ∃ events result t,
      outcome
          (runInNamespace (provider.recorded .call) context handle operation
            (act.recorded .ran)) (s.record []) =
        (result, t.record events) ∧
      outcome (runInNamespace provider context handle operation act) s =
        (result, t) ∧
      ∀ other, SwitchProtocol context handle events other ↔ other = result := by
  obtain ⟨events, result, t, recorded, plain, allowed⟩ :=
    exists_record_runInNamespace id provider context handle operation act s []
  rw [List.map_id, List.nil_append] at recorded
  refine ⟨events, result, t, recorded, plain, fun other => ?_⟩
  constructor
  · intro alternative
    exact alternative.unique allowed
  · intro equal
    rw [equal]
    exact allowed

end InterfaceManager

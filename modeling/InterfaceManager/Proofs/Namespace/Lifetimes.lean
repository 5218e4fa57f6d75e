import InterfaceManager.InMemory.Backend
import InterfaceManager.Proofs.Namespace.Accounts

/-!
# The lifetime of a context

A context with a name has an open handle exactly as long as the pool that
created it knows it, whoever else does.  Once closed it stays closed, and
nobody enters it again: neither is the provider called nor an operation run.
The default namespace has no handle to close.

An operation that itself works on pools is a scope that is entered, the steps
that the operation makes, and the scope left.
-/

namespace InterfaceManager

open InterfaceManager.Action

theorem Context.isDefault_eq_false {context : Context}
    (named : context.name ≠ "") : context.isDefault = false := by
  simpa [isDefault] using named

namespace Pools

variable {s t : Pools η} {i j : Nat} {name label : String}
  {context : Context}

theorem Sound.refcount?_of_get? (sound : s.Sound)
    (holds : (s.pool i).get? name = some context) :
    ∃ users, (s.pool i).refcount? name = some users ∧ 1 ≤ users := by
  obtain ⟨lease, found, -⟩ := Pool.exists_lease_of_get? holds
  have counted : (s.pool i).refcount? name = some lease.refcount := by
    rw [Pool.refcount?, found, Option.map_some]
  exact ⟨lease.refcount, counted, (sound.pools i).used found⟩

theorem Sound.isOpen_of_get? (sound : s.Sound)
    (holds : (s.pool i).get? name = some context) :
    s.contexts.isOpen context = true := by
  obtain ⟨lease, found, rfl⟩ := Pool.exists_lease_of_get? holds
  exact (sound.pools i).isOpen found

section Lifetimes

variable (provider : NamespaceProvider η) (adjust : η → ε → η)

/-- A context with a name has an open handle exactly as long as its pool
knows it. -/
theorem run_open_iff (sound : t.Sound)
    (holds : (t.pool i).get? name = some context) (named : name ≠ "")
    (steps : List (PoolsStep ε)) :
    let s := run provider adjust t steps
    (s.contexts.handle? context).isSome = true ↔
      (s.pool i).get? name = some context := by
  intro s
  have soundThen : s.Sound := run_sound provider adjust sound steps
  have same := (sound.pools i).named_of_get? holds
  have notDefault := Context.isDefault_eq_false (same ▸ named)
  constructor
  · intro opened
    rcases run_pooled_or_retired provider adjust sound holds steps
      with pooled | retired
    · exact pooled
    · rw [retired.closed] at opened
      cases opened
  · intro pooled
    have usable := soundThen.isOpen_of_get? pooled
    rwa [Contexts.isOpen, notDefault, Bool.false_or] at usable

/-- A context without a handle has been retired, if it has a name. -/
theorem run_retired_of_closed (sound : t.Sound)
    (holds : (t.pool i).get? name = some context) (named : name ≠ "")
    {steps : List (PoolsStep ε)}
    (closed : (run provider adjust t steps).contexts.handle? context = none) :
    (run provider adjust t steps).Retired context := by
  rcases run_pooled_or_retired provider adjust sound holds steps
    with pooled | retired
  · have opened :=
      (run_open_iff provider adjust sound holds named steps).mpr pooled
    rw [closed] at opened
    cases opened
  · exact retired

/-- A name that is not tracked gets a new context with the handle that the
provider has opened for it. -/
theorem acquired_anew (untracked : (s.pool j).get? name = none)
    (named : name ≠ "")
    (acquiring : outcome (step provider adjust (.acquire j name label)) s =
      (.ok (.context (some context)), t)) :
    context.id = s.contexts.handles.length ∧
      ∃ handle, t.contexts.handle? context = some handle ∧
        calls provider adjust (.acquire j name label) s =
          [.opened name (.ok handle)] := by
  have missing : (s.pooled j).pool.lease? name = none :=
    Option.map_eq_none_iff.mp untracked
  rw [calls_acquire, if_pos ⟨untracked, named⟩]
  rcases opening : outcome (provider.openHandle name)
    (s.session.noting (.contextPrepared name)) with ⟨f | handle, u⟩
  · rw [outcome_step_unacquired provider adjust
      (Pooled.outcome_acquire_unopened provider missing named opening)]
      at acquiring
    cases acquiring
  · rw [outcome_step_acquired provider adjust
      (Pooled.outcome_acquire_opened provider missing named opening)]
      at acquiring
    cases acquiring
    exact ⟨rfl, handle, s.contexts.handle?_create name (some handle), rfl⟩

/-! ## Attempts to enter -/

def refusal (context : Context) : Fault :=
  .error (.namespaceSwitch context.name "Namespace context already closed")

/-- Entering a context and running an operation in it are refused at any
time.  The record shows that the provider is not called and that the
operation does not run. -/
def Refuses (provider : NamespaceProvider η) (context : Context)
    (handle : Option Handle) : Prop :=
  ∀ (operation : String) (u : Session η),
    let noted := u.noting (.contextAlreadyClosed context.name operation)
    outcome (Scope.enter (provider.recorded id) context handle operation)
        (u.record []) = (.error (refusal context), noted.record []) ∧
    ∀ {α : Type} (act : Action (Session η) α),
      outcome (runInNamespace (provider.recorded ScopeEvent.call) context
          handle operation (act.recorded ScopeEvent.ran)) (u.record []) =
        (.error (refusal context), noted.record [])

/-- Entering a context switches nothing, and running an operation in it is
the operation. -/
def Stays (provider : NamespaceProvider η) (context : Context)
    (handle : Option Handle) : Prop :=
  ∀ (operation : String) (u : Session η),
    outcome (Scope.enter provider context handle operation) u =
      (.ok ⟨operation, none⟩, u) ∧
    ∀ {α : Type} (act : Action (Session η) α),
      outcome (runInNamespace provider context handle operation act) u =
        outcome act u

theorem refuses_of_closed (named : context.name ≠ "") :
    Refuses provider context none := by
  have notDefault := Context.isDefault_eq_false named
  intro operation u
  constructor
  · exact Scope.outcome_enter_closed _ operation (u.record []) notDefault
  · intro α act
    exact outcome_runInNamespace_closed _ operation _ (u.record []) notDefault

theorem stays_of_default (handle : Option Handle) (default : context.name = "") :
    Stays provider context handle := by
  have isDefault : context.isDefault = true := by
    simpa [Context.isDefault] using default
  intro operation u
  constructor
  · exact Scope.outcome_enter_default provider handle operation u isDefault
  · intro α act
    exact outcome_runInNamespace_default provider operation act u handle
      isDefault

/-- A step that runs or enters a closed context is refused. -/
theorem step_refused (kept : s.kept.at? label = some context)
    (named : context.name ≠ "") (closed : s.contexts.handle? context = none)
    (operation : String) {next : PoolsStep ε}
    (attempts : (∃ inner, next = .run label operation inner) ∨
      ∃ scope, next = .enter label operation scope) :
    let noted :=
      s.session.noting (.contextAlreadyClosed context.name operation)
    outcome (step provider adjust next) s =
        (.error (refusal context), { s with session := noted }) ∧
      calls provider adjust next s = [] := by
  have notDefault := Context.isDefault_eq_false named
  rcases attempts with ⟨inner, rfl⟩ | ⟨scope, rfl⟩
  · constructor
    · simp only [step, outcome_bind, outcome_get, outcome_inSession, perform,
        kept, closed, outcome_runInNamespace_closed _ _ _ _ notDefault]
      rfl
    · simp only [calls, recordedStep, step, outcome_bind, outcome_get,
        outcome_inSession, perform, record, kept, closed,
        outcome_runInNamespace_closed _ _ _ _ notDefault]
      rfl
  · constructor
    · simp only [step, outcome_bind, outcome_get, outcome_inSession,
        kept, closed, Scope.outcome_enter_closed _ _ _ notDefault]
      rfl
    · simp only [calls, recordedStep, step, outcome_bind, outcome_get,
        outcome_inSession, record, kept, closed,
        Scope.outcome_enter_closed _ _ _ notDefault]
      rfl

/-! ## No use after release -/

/-- A context with a name has an open handle exactly as long as the pool that
gave it has it in use.  Once closed it stays closed, whatever is acquired
later, and every attempt to enter it is refused before the provider is called.
The default namespace stays usable. -/
theorem run_closes_for_good (host : η) {count i : Nat} (inside : i < count)
    (before after : List (PoolsStep ε)) {name label : String}
    {context : Context} {t : Pools η}
    (acquiring : outcome (step provider adjust (.acquire i name label))
      (run provider adjust (start host count) before) =
        (.ok (.context (some context)), t)) :
    let s := run provider adjust t after
    let handle := s.contexts.handle? context
    context.name = name ∧
    (name ≠ "" →
      (handle.isSome = true ↔ (s.pool i).get? name = some context)) ∧
    ((s.pool i).get? name = some context →
      ∃ users, (s.pool i).refcount? name = some users ∧ 1 ≤ users) ∧
    (name ≠ "" → handle = none →
      (∀ more,
        (run provider adjust s more).contexts.handle? context = none) ∧
      (∀ {j label' other u}, j < count →
        outcome (step provider adjust (.acquire j name label')) s =
          (.ok (.context (some other)), u) →
        other.id ≠ context.id ∧ (u.contexts.handle? other).isSome = true ∧
        ((s.pool j).get? name = none →
          (∀ k known held, (s.pool k).get? known = some held →
            other.id ≠ held.id) ∧
          ∃ opened, u.contexts.handle? other = some opened ∧
            calls provider adjust (.acquire j name label') s =
              [.opened name (.ok opened)])) ∧
      Refuses provider context handle ∧
      ∀ label' operation next, s.kept.at? label' = some context →
        ((∃ inner, next = .run label' operation inner) ∨
          ∃ scope, next = .enter label' operation scope) →
        let noted :=
          s.session.noting (.contextAlreadyClosed context.name operation)
        outcome (step provider adjust next) s =
            (.error (refusal context), { s with session := noted }) ∧
          calls provider adjust next s = []) ∧
    (name = "" → s.contexts.isOpen context = true ∧
      Stays provider context handle) := by
  intro s handle
  have soundStart := sound_start host count
  have soundBefore := run_sound provider adjust soundStart before
  have moves := step_moves provider adjust soundBefore (.acquire i name label)
  rw [acquiring] at moves
  have soundThen : t.Sound := moves.sound soundBefore
  have sound : s.Sound := run_sound provider adjust soundThen after
  have lengthBefore :
      (run provider adjust (start host count) before).pools.length = count := by
    rw [length_run provider adjust soundStart, start, List.length_replicate]
  have length : s.pools.length = count := by
    rw [length_run provider adjust soundThen, moves.length_pools, lengthBefore]
  have holds := (acquired_get? provider adjust
    (by rw [lengthBefore]; exact inside) acquiring).1
  have same := (soundThen.pools i).named_of_get? holds
  refine ⟨same, fun named => run_open_iff provider adjust soundThen holds named
    after, sound.refcount?_of_get?, fun named closed => ?_, fun default => ?_⟩
  · have retired : s.Retired context :=
      run_retired_of_closed provider adjust soundThen holds named closed
    rw [← same] at named
    refine ⟨fun more => ?_, ?_, ?_, ?_⟩
    · exact (run_retired provider adjust sound retired more).closed
    · intro j label' other u within again
      have moves' := step_moves provider adjust sound (.acquire j name label')
      rw [again] at moves'
      have soundLast := moves'.sound sound
      have held := (acquired_get? provider adjust
        (by rw [length]; exact within) again).1
      have different : other.id ≠ context.id :=
        (moves'.retired retired).unknown held
      have notDefault : other.isDefault = false := by
        apply Context.isDefault_eq_false
        rw [(soundLast.pools j).named_of_get? held, ← same]
        exact named
      have usable := soundLast.isOpen_of_get? held
      rw [Contexts.isOpen, notDefault, Bool.false_or] at usable
      refine ⟨different, usable, fun untracked => ?_⟩
      obtain ⟨fresh, opened⟩ := acquired_anew provider adjust untracked
        (same ▸ named) again
      refine ⟨fun k known held' knows => ?_, opened⟩
      have created := (sound.pools k).created_of_get? knows
      rw [fresh]
      exact Nat.ne_of_gt created
    · rw [closed]
      exact refuses_of_closed provider named
    · intro label' operation next kept attempts
      exact step_refused provider adjust kept named closed operation attempts
  · have default' : context.name = "" := same.trans default
    refine ⟨?_, stays_of_default provider handle default'⟩
    simp [Contexts.isOpen, Context.isDefault, default']

theorem refused_after_release :
    let make := step MemoryHost.provider MemoryHost.adjust
    let origin : Pools MemoryHost :=
      start (.ofParts (.ofNames ["ns"]) .empty .current) 1
    let t := (outcome (make (.acquire 0 "ns" "a")) origin).2
    let s := run MemoryHost.provider MemoryHost.adjust t
      [.share "a" "b", .release 0 "a"]
    0 < 1 ∧
    outcome (make (.acquire 0 "ns" "a")) origin =
      (.ok (.context (some ⟨0, "ns"⟩)), t) ∧
    (outcome (make (.enter "b" "look" "inside")) s).1 =
      .error (refusal ⟨0, "ns"⟩) := by
  intro make origin t s
  have inside : 0 < 1 := by decide
  have acquiring : outcome (make (.acquire 0 "ns" "a")) origin =
      (.ok (.context (some ⟨0, "ns"⟩)), t) := Prod.ext (by rfl) rfl
  have closed : s.contexts.handle? ⟨0, "ns"⟩ = none := by decide +kernel
  have kept : s.kept.at? "b" = some ⟨0, "ns"⟩ := by decide +kernel
  obtain ⟨-, -, -, closes, -⟩ := run_closes_for_good MemoryHost.provider
    MemoryHost.adjust _ inside [] [.share "a" "b", .release 0 "a"] acquiring
  obtain ⟨-, -, -, refused⟩ := closes (by decide) closed
  have entering := refused "b" "look" (.enter "b" "look" "inside") kept
    (Or.inr ⟨"inside", rfl⟩)
  exact ⟨inside, acquiring, congrArg Prod.fst entering.1⟩

end Lifetimes

end Pools
end InterfaceManager

import InterfaceManager.Namespace.Pools
import InterfaceManager.Proofs.System.Files
import InterfaceManager.Proofs.System.Switching

/-!
# Errands of a thread

An errand is anything that a thread does with the machine while it moves
between namespaces by nested runs alone.  Inside one run any number of others
may follow one another, each chosen by what has been seen so far, and every
run may end in any way.  The switch of the kernel may fail at any of them.

Each run brings the thread back to where it was, with the signals it had
blocked, if its own switch back succeeds.  What went wrong inside does not
matter: the way back was saved before.
-/

namespace InterfaceManager
namespace Machine

open InterfaceManager.Action

/-- Something that happens to a machine and leaves its thread as it is. -/
structure Aside where
  apply : Machine → Machine
  thread_apply : ∀ m, (apply m).thread = m.thread

/-- What happens to a machine from outside is such a thing. -/
def Aside.ofChange (change : Change) : Aside where
  apply m := m.adjust change
  thread_apply m := by cases change <;> rfl

inductive Errand (α : Type) where
  | finish (answer : Outcome α)
  | look (next : Machine → Errand α)
  | aside (happening : Aside) (next : Errand α)
  /-- Runs an errand in the namespace of a context and goes on with the way
  in which that ended. -/
  | run (context : Context) (handle : Option Handle) (operation : String)
      (inner : Errand α) (next : Outcome α → Errand α)

namespace Errand

variable {α : Type}

/-- Does an errand, with the configured provider. -/
def perform (config : NamespaceConfig) :
    Errand α → Action (Session Machine) α
  | finish answer => Action.ofOutcome answer
  | look next => do perform config (next (← get).host)
  | aside happening next => do
    modify fun s => { s with host := happening.apply s.host }
    perform config next
  | run context handle operation inner next => do
    let answer ← Action.attempt <|
      runInNamespace (provider config) context handle operation
        (perform config inner)
    perform config (next answer)

/-- Doing an errand comes to a part of it, in the state given. -/
inductive Reaches (config : NamespaceConfig) :
    Errand α → Session Machine → Errand α → Session Machine → Prop
  | here {e : Errand α} {s : Session Machine} : Reaches config e s e s
  | looked {next : Machine → Errand α} {s t : Session Machine}
      {e : Errand α} (rest : Reaches config (next s.host) s e t) :
      Reaches config (look next) s e t
  | past {happening : Aside} {next e : Errand α} {s t : Session Machine}
      (rest : Reaches config next
        { s with host := happening.apply s.host } e t) :
      Reaches config (aside happening next) s e t
  | inside {context : Context} {handle : Option Handle}
      {operation : String} {inner e : Errand α}
      {next : Outcome α → Errand α} {scope : Scope}
      {s u t : Session Machine}
      (entering : outcome
        (Scope.enter (provider config) context handle operation) s =
          (.ok scope, u))
      (rest : Reaches config inner u e t) :
      Reaches config (run context handle operation inner next) s e t
  | after {context : Context} {handle : Option Handle}
      {operation : String} {inner e : Errand α}
      {next : Outcome α → Errand α} {answer : Outcome α}
      {s u t : Session Machine}
      (ran : outcome
        (runInNamespace (provider config) context handle operation
          (perform config inner)) s = (answer, u))
      (rest : Reaches config (next answer) u e t) :
      Reaches config (run context handle operation inner next) s e t

theorem outcome_perform_finish (config : NamespaceConfig)
    (answer : Outcome α) (s : Session Machine) :
    outcome (perform config (finish answer)) s = (answer, s) := by
  cases answer <;> rfl

theorem outcome_perform_run (config : NamespaceConfig) (context : Context)
    (handle : Option Handle) (operation : String) (inner : Errand α)
    (next : Outcome α → Errand α) (s : Session Machine) :
    outcome (perform config (run context handle operation inner next)) s =
      let ran := outcome (runInNamespace (provider config) context handle
        operation (perform config inner)) s
      outcome (perform config (next ran.1)) ran.2 := by
  rw [perform, outcome_bind, outcome_attempt]

end Errand

/-! ## What every errand keeps -/

section Kept

variable {m : Machine} {config : NamespaceConfig}

theorem Aside.blocked_apply (happening : Aside) (m : Machine) :
    (happening.apply m).blocked = m.blocked :=
  congrArg Prod.snd (happening.thread_apply m)

theorem Maskable.entered (maskable : m.Maskable) (netns : String) :
    (Machine.entered config m netns).Maskable := by
  cases blocks : config.blockSignals with
  | false => simpa [Machine.entered, Maskable, blocks] using maskable
  | true =>
    simp [Machine.entered, Maskable, blocks, maskable.or_blockable]

theorem Maskable.returned (maskable : m.Maskable)
    (signals : Option SignalSet) (netns : String) :
    (Machine.returned signals m netns).Maskable := by
  cases signals with
  | none => exact maskable
  | some signals =>
    simp [Machine.returned, Maskable, BitVec.and_assoc]

/-- No errand blocks a signal that cannot be blocked. -/
theorem Errand.perform_maskable (config : NamespaceConfig)
    (errand : Errand α) :
    (errand.perform config).Keeps fun s => s.host.Maskable := by
  have enters : ∀ handle, ((provider config).enter handle).Keeps
      fun s => s.host.Maskable := by
    intro handle s maskable
    rcases enter_cases config handle maskable with ⟨e, failed⟩ |
      ⟨object, previous, netns, t, -, -, -, done, same⟩
    · rw [failed]
      exact maskable
    · rw [done, same]
      exact maskable.entered netns
  have exits : ∀ state, ((provider config).exit state).Keeps
      fun s => s.host.Maskable := by
    intro state s maskable
    rcases exit_cases config state s with ⟨e, failed⟩ |
      ⟨previous, netns, t, -, -, done, same⟩
    · rw [failed]
      exact maskable
    · rw [done, same]
      exact maskable.returned state.signals netns
  induction errand with
  | finish answer =>
    intro s maskable
    rw [outcome_perform_finish]
    exact maskable
  | look next ih => exact Keeps.get.bind fun s => ih s.host
  | aside happening next ih =>
    refine Keeps.bind (.modify fun s maskable => ?_) fun _ => ih
    exact maskable.of_blocked_eq (happening.blocked_apply s.host)
  | run context handle operation inner next ih ihNext =>
    have runs := runInNamespace_keeps (fun _ _ maskable => maskable) enters
      exits context handle operation ih
    exact runs.attempt.bind ihNext

/-- Without blocking, no errand changes the blocked signals. -/
theorem Errand.perform_unblocked (unblocking : config.blockSignals = false)
    (signals : SignalSet) (errand : Errand α) :
    (errand.perform config).Keeps fun s =>
      s.host.Maskable ∧ s.host.blocked = signals := by
  induction errand with
  | finish answer =>
    intro s kept
    rw [outcome_perform_finish]
    exact kept
  | look next ih => exact Keeps.get.bind fun s => ih s.host
  | aside happening next ih =>
    refine Keeps.bind (.modify fun s kept => ?_) fun _ => ih
    have same := happening.blocked_apply s.host
    exact ⟨kept.1.of_blocked_eq same, same.trans kept.2⟩
  | run context handle operation inner next ih ihNext =>
    have runs : (runInNamespace (provider config) context handle operation
        (inner.perform config)).Keeps fun s =>
          s.host.Maskable ∧ s.host.blocked = signals := by
      rintro s ⟨maskable, same⟩
      cases named : context.isDefault with
      | true =>
        rw [outcome_runInNamespace_default _ _ _ _ handle named]
        exact ih s ⟨maskable, same⟩
      | false =>
        rw [outcome_runInNamespace_eq]
        rcases scope_enter_cases config handle operation named maskable
          with ⟨f, t, refused, stayed⟩ |
            ⟨h, object, previous, netns, t, -, -, -, -, entering, moved⟩
        · rw [refused]
          exact stayed ▸ ⟨maskable, same⟩
        · have inside : t.host.Maskable ∧ t.host.blocked = signals := by
            rw [moved]
            refine ⟨maskable.entered netns, ?_⟩
            simp [Machine.entered, unblocking, same]
          have left := ih t inside
          have unsaved : savedSignals config s.host = none := by
            simp [savedSignals, unblocking]
          rw [unsaved] at entering
          rw [entering]
          rcases scope_exit_cases config operation
              ⟨h.name, some previous, none⟩
              (outcome (inner.perform config) t).2
            with ⟨f, u, failed, stayed⟩ |
              ⟨way, back, u, -, -, done, returned⟩
          · simp only [failed]
            exact stayed ▸ left
          · simp only [done, returned]
            exact ⟨left.1.returned none back, left.2⟩
    exact runs.attempt.bind ihNext

theorem Errand.Reaches.maskable {errand e : Errand α} {s t : Session Machine}
    (reached : Reaches config errand s e t) (maskable : s.host.Maskable) :
    t.host.Maskable := by
  induction reached with
  | here => exact maskable
  | looked rest ih => exact ih maskable
  | @past happening next e s t rest ih =>
    exact ih (maskable.of_blocked_eq (happening.blocked_apply s.host))
  | @inside context handle operation inner e next scope s u t entering rest
      ih =>
    apply ih
    cases named : context.isDefault with
    | true =>
      rw [Scope.outcome_enter_default _ _ _ _ named] at entering
      cases entering
      exact maskable
    | false =>
      rcases scope_enter_cases config handle operation named maskable
        with ⟨f, v, refused, -⟩ |
          ⟨h, object, previous, netns, v, -, -, -, -, entered, moved⟩
      · rw [refused] at entering
        cases entering
      · rw [entered] at entering
        cases entering
        rw [moved]
        exact maskable.entered netns
  | @after context handle operation inner e next answer s u t ran rest ih =>
    apply ih
    have runs : outcome (Errand.perform config
        (.run context handle operation inner .finish)) s = (answer, u) := by
      rw [Errand.outcome_perform_run, ran, Errand.outcome_perform_finish]
    have kept := Errand.perform_maskable config
      (.run context handle operation inner .finish) s maskable
    rw [runs] at kept
    exact kept

end Kept

/-! ## Every run restores the thread -/

/-- Every run of every errand, in the namespace of a context with a name,
takes the thread into that namespace with all signals blocked, if that is
configured, and brings it back as it was.  A switch in that fails has changed
nothing, and so has a switch back that fails. -/
theorem errand_restores (config : NamespaceConfig) (errand : Errand α)
    {s t : Session Machine} (maskable : s.host.Maskable) {context : Context}
    {handle : Option Handle} {operation : String} {inner : Errand α}
    {next : Outcome α → Errand α}
    (reached : Errand.Reaches config errand s
      (.run context handle operation inner next) t)
    (named : context.name ≠ "")
    (selfOpens : t.host.openFile config.selfPath =
      .ok (.namespace t.host.current)) :
    let entering :=
      outcome (Scope.enter (provider config) context handle operation) t
    let ran := outcome (runInNamespace (provider config) context handle
      operation (inner.perform config)) t
    (∀ f u, entering = (.error f, u) →
      ran = (.error f, u) ∧ u.host.thread = t.host.thread) ∧
    ∀ scope u, entering = (.ok scope, u) →
      let inside := outcome (inner.perform config) u
      let left := outcome (scope.exit (provider config)) inside.2
      ran = (Scope.ending inside.1 left.1, left.2) ∧
      (∃ h object, handle = some h ∧ h.object = some object ∧
        u.host.namespaceOf? object = some u.host.current) ∧
      (config.blockSignals = true → u.host.signalsBlocked = true) ∧
      (left.1 = .ok () → left.2.host.thread = t.host.thread) ∧
      (left.1 ≠ .ok () → left.2.host.thread = inside.2.host.thread) := by
  intro entering ran
  have runs : ran = _ := outcome_runInNamespace_eq (provider config) operation
    (inner.perform config) t handle
  have maskableThen : t.host.Maskable := reached.maskable maskable
  have notDefault : context.isDefault = false := by
    simpa [Context.isDefault] using named
  rcases scope_enter_cases config handle operation notDefault maskableThen
    with ⟨f, u, refused, stayed⟩ |
      ⟨h, object, previous, netns, u, given, held, opening, leads, entered,
        moved⟩
  · rw [refused] at runs
    constructor
    · intro f' u' failed
      cases refused.symm.trans failed
      exact ⟨runs, by rw [stayed]⟩
    · intro scope u' switched
      cases refused.symm.trans switched
  · rw [entered] at runs
    constructor
    · intro f u' failed
      cases entered.symm.trans failed
    · intro scope u' switched
      cases entered.symm.trans switched
      intro inside left
      -- The way back leads to where the thread was before it entered.
      cases opening.symm.trans selfOpens
      have arrived : u.host.namespaceOf? object = some u.host.current := by
        rw [moved]
        exact leads
      have blocked : config.blockSignals = true →
          u.host.signalsBlocked = true := by
        intro blocks
        simp [moved, Machine.entered, signalsBlocked, blocks,
          maskableThen.or_blockable]
      have unblocked : config.blockSignals = false →
          inside.2.host.blocked = t.host.blocked := by
        intro unblocking
        have before : u.host.blocked = t.host.blocked := by
          simp [moved, Machine.entered, unblocking]
        have maskableInside : u.host.Maskable :=
          maskableThen.of_blocked_eq before
        exact (Errand.perform_unblocked unblocking _ inner u
          ⟨maskableInside, before⟩).2
      refine ⟨runs, ⟨h, object, given, held, arrived⟩, blocked, ?_⟩
      rcases scope_exit_cases config operation
          ⟨h.name, some (.namespace t.host.current),
            savedSignals config t.host⟩ inside.2
        with ⟨f, v, failed, stayed⟩ | ⟨way, back, v, saved, leads', done, same⟩
      · have ended : left = (.error f, v) := failed
        rw [ended]
        refine ⟨fun ok => ?_, fun _ => by rw [stayed]⟩
        cases ok
      · have ended : left = (.ok (), v) := done
        rw [ended]
        refine ⟨fun _ => ?_, fun failed => absurd rfl failed⟩
        cases saved
        cases leads'
        rw [same]
        exact thread_returned maskableThen unblocked

/-- A run whose inner run cannot switch back, since the kernel no longer lets
the thread into the outer namespace. -/
def stranding : Errand Unit :=
  .run ⟨0, "outer"⟩ (some ⟨"outer", some (.namespace "outer")⟩) "first"
    (.run ⟨1, "inner"⟩ (some ⟨"inner", some (.namespace "inner")⟩) "second"
      (.aside
        (.ofChange (.setKernel
          { Kernel.empty with switchErrors := [("outer", .notPermitted)] }))
        (.finish (.ok ())))
      fun answer => .finish answer)
    fun answer => .finish answer

/-- A configuration that finds the current namespace at `self`. -/
def selfConfig : NamespaceConfig := ⟨[], Text.octets "self", true⟩

/-- A machine with this one file. -/
def selfMachine : Machine :=
  start ⟨[(⟨.working, [Text.octets "self"]⟩, .currentNamespace)], []⟩ .empty

/-- The current namespace is at `self` wherever the files are these. -/
theorem openFile_self {m : Machine} (same : m.files = selfMachine.files) :
    m.openFile selfConfig.selfPath = .ok (.namespace m.current) := by
  have known : (selfMachine.lookup selfConfig.selfPath).toOption.map
      FileTree.Found.node = some .currentNamespace := by
    decide +kernel
  have looked : m.lookup selfConfig.selfPath =
      selfMachine.lookup selfConfig.selfPath := by
    rw [lookup, lookup, same]
  rw [openFile, looked]
  rcases finding : selfMachine.lookup selfConfig.selfPath with e | found
  · rw [finding] at known
    cases known
  · rw [finding] at known
    have node : found.node = .currentNamespace := Option.some.inj known
    exact congrArg (fun node => Except.ok (m.objectOf node)) node

theorem restored_after_stranding :
    let ran := outcome (stranding.perform selfConfig) (.start selfMachine)
    selfMachine.Maskable ∧
    selfMachine.openFile selfConfig.selfPath =
      .ok (.namespace selfMachine.current) ∧
    ran.1.isOk = false ∧ ran.2.host.thread = selfMachine.thread := by
  have maskable : selfMachine.Maskable := maskable_start _ _
  have selfOpens := openFile_self (m := selfMachine) rfl
  have entering : (outcome (Scope.enter (provider selfConfig) ⟨0, "outer"⟩
      (some ⟨"outer", some (.namespace "outer")⟩) "first")
        (.start selfMachine)).1 =
      .ok ⟨"first", some ⟨"outer", some (.namespace ""), some 0⟩⟩ := by
    apply eq_ok_of_toOption
    decide +kernel
  obtain ⟨-, restores⟩ := errand_restores (s := .start selfMachine)
    selfConfig stranding maskable .here (by decide) selfOpens
  obtain ⟨running, -, -, restored, -⟩ := restores _ _ (Prod.ext entering rfl)
  have ended : ∀ answer : Outcome Unit, answer.isOk = true →
      answer = .ok () := by
    rintro (f | ⟨⟩) ok
    · cases ok
    · rfl
  refine ⟨maskable, selfOpens, by decide +kernel, ?_⟩
  rw [stranding, Errand.outcome_perform_run, Errand.outcome_perform_finish,
    running]
  exact restored (ended _ (by decide +kernel))

end Machine
end InterfaceManager

import InterfaceManager.Proofs.Namespace.Scope
import InterfaceManager.System.Namespaces

/-!
# The thread of a machine

Where the thread is and which signals it has blocked, before and after it has
been switched.  A switch in that fails undoes what it has done; a switch back
that fails has done nothing yet.
-/

namespace InterfaceManager
namespace Machine

open InterfaceManager.Action

/-- What a switch changes: the namespace of the thread and its blocked
signals. -/
def thread (m : Machine) : String × SignalSet := (m.current, m.blocked)

/-- Only signals that can be blocked are blocked. -/
def Maskable (m : Machine) : Prop :=
  m.blocked &&& SignalSet.blockable = m.blocked

variable {m : Machine} {config : NamespaceConfig} {s : Session Machine}

theorem Maskable.of_blocked_eq {n : Machine} (maskable : m.Maskable)
    (same : n.blocked = m.blocked) : n.Maskable := by
  rw [Maskable, same]
  exact maskable

theorem maskable_start (files : FileTree) (kernel : Kernel) :
    (start files kernel).Maskable := by
  simp [start, Maskable]

/-- Blocking every signal blocks exactly those that can be blocked. -/
theorem Maskable.or_blockable (maskable : m.Maskable) :
    m.blocked ||| SignalSet.blockable = SignalSet.blockable := by
  rw [← maskable]
  ext i hi
  simp only [BitVec.getElem_or, BitVec.getElem_and]
  cases m.blocked[i] <;> cases SignalSet.blockable[i] <;> rfl

theorem switchTo_cases (m : Machine) (object : FileObject) :
    (∃ e, m.switchTo object = .error e) ∨
      ∃ netns, m.namespaceOf? object = some netns ∧
        m.switchTo object = .ok { m with current := netns } := by
  rcases leads : m.namespaceOf? object with _ | netns
  · exact Or.inl ⟨.invalidArgument, by
      simp [switchTo, leads, Kernel.switch, Except.map]⟩
  · rcases found : m.kernel.switchErrors.find? fun entry => entry.1 == netns
      with _ | ⟨name, e⟩
    · exact Or.inr ⟨netns, rfl, by
        simp [switchTo, leads, Kernel.switch, found, Except.map]⟩
    · exact Or.inl ⟨e, by
        simp [switchTo, leads, Kernel.switch, found, Except.map]⟩

/-! ## Entering -/

/-- The machine with the thread in `netns` and with the signals blocked, if
that is configured. -/
def entered (config : NamespaceConfig) (m : Machine) (netns : String) :
    Machine :=
  { m with
    current := netns
    blocked :=
      if config.blockSignals then m.blocked ||| SignalSet.blockable
      else m.blocked }

def savedSignals (config : NamespaceConfig) (m : Machine) :
    Option SignalSet :=
  if config.blockSignals then some m.blocked else none

theorem outcome_saveSignals (config : NamespaceConfig) (s : Session Machine) :
    outcome (saveSignals config) s =
      (.ok (savedSignals config s.host),
        { s with host := entered config s.host s.host.current }) := by
  cases blocks : config.blockSignals <;>
    simp [saveSignals, savedSignals, entered, outcome_bind, outcome_map,
      blocks, blockSignals, Except.map]

theorem outcome_returnSignals (config : NamespaceConfig)
    (maskable : s.host.Maskable) :
    outcome (returnSignals (savedSignals config s.host))
        { s with host := entered config s.host s.host.current } =
      (.ok (), s) := by
  rw [Maskable] at maskable
  cases blocks : config.blockSignals <;>
    simp [returnSignals, savedSignals, entered, blocks, restoreSignals,
      maskable]

/-- Entering fails and undoes everything, or it saves the way back and moves
the thread to where the handle leads. -/
theorem enter_cases (config : NamespaceConfig) (handle : Handle)
    (maskable : s.host.Maskable) :
    (∃ e, outcome ((provider config).enter handle) s =
      (.error (.error e), s)) ∨
    ∃ object previous netns t,
      handle.object = some object ∧
      s.host.openFile config.selfPath = .ok previous ∧
      s.host.namespaceOf? object = some netns ∧
      outcome ((provider config).enter handle) s =
        (.ok ⟨handle.name, some previous, savedSignals config s.host⟩, t) ∧
      t.host = entered config s.host netns := by
  rcases held : handle.object with _ | object
  · exact Or.inl ⟨_, by simp only [provider, enter, held]; rfl⟩
  rcases opening : s.host.openFile config.selfPath with fault | previous
  · exact Or.inl ⟨_, by
      simp only [provider, enter, held, outcome_bind, outcome_get, opening]
      rfl⟩
  rcases switchTo_cases (entered config s.host s.host.current) object
    with ⟨e, switching⟩ | ⟨netns, leads, switching⟩
  · refine Or.inl ⟨.namespaceSwitch handle.name e.symbolicMessage, ?_⟩
    simp only [provider, enter, held, outcome_bind, outcome_get, opening,
      outcome_saveSignals, switching, outcome_returnSignals config maskable]
    rfl
  · let moved : Session Machine := ⟨entered config s.host netns, s.journal⟩
    refine Or.inr ⟨object, previous, netns,
      moved.noting (.threadEntered handle.name), rfl, rfl, leads, ?_, rfl⟩
    simp only [provider, enter, held, outcome_bind, outcome_get, opening,
      outcome_saveSignals, switching]
    rfl

/-- The machine with the thread back in `netns` and with the saved signals
given back. -/
def returned (signals : Option SignalSet) (m : Machine) (netns : String) :
    Machine :=
  { m with
    current := netns
    blocked :=
      match signals with
      | none => m.blocked
      | some signals => signals &&& SignalSet.blockable }

/-- Leaving fails and does nothing, or it moves the thread to where the way
back leads and gives the saved signals back. -/
theorem exit_cases (config : NamespaceConfig) (state : SwitchState)
    (s : Session Machine) :
    (∃ e, outcome ((provider config).exit state) s =
      (.error (.error e), s)) ∨
    ∃ previous netns t,
      state.previous = some previous ∧
      s.host.namespaceOf? previous = some netns ∧
      outcome ((provider config).exit state) s = (.ok (), t) ∧
      t.host = returned state.signals s.host netns := by
  rcases saved : state.previous with _ | previous
  · exact Or.inl ⟨_, by simp only [provider, leave, saved]; rfl⟩
  rcases switchTo_cases s.host previous
    with ⟨e, switching⟩ | ⟨netns, leads, switching⟩
  · refine Or.inl ⟨.namespaceSwitch state.target e.symbolicMessage, ?_⟩
    simp only [provider, leave, saved, outcome_bind, outcome_get, switching]
    rfl
  · let moved : Session Machine :=
      ⟨returned state.signals s.host netns, s.journal⟩
    refine Or.inr ⟨previous, netns,
      moved.noting (.threadReturned state.target), rfl, leads, ?_, rfl⟩
    simp only [provider, leave, saved, outcome_bind, outcome_get, switching]
    cases signals : state.signals <;>
      simp [returnSignals, restoreSignals, returned, moved, signals]

/-- Returning to where the machine was, with what was saved there, brings the
thread back as it was, if the signals are those saved or have not changed. -/
theorem thread_returned {n : Machine} (maskable : m.Maskable)
    (unblocked : config.blockSignals = false → n.blocked = m.blocked) :
    (returned (savedSignals config m) n m.current).thread = m.thread := by
  cases blocks : config.blockSignals with
  | false => simp [returned, savedSignals, thread, blocks, unblocked blocks]
  | true =>
    rw [Maskable] at maskable
    simp [returned, savedSignals, thread, blocks, maskable]

/-! ## Scopes -/

section Scopes

variable {context : Context} {operation : String}

/-- A scope with a name is entered as its handle is, or not at all. -/
theorem scope_enter_cases (config : NamespaceConfig) (handle : Option Handle)
    (operation : String) (named : context.isDefault = false)
    (maskable : s.host.Maskable) :
    (∃ f t, outcome (Scope.enter (provider config) context handle operation)
        s = (.error f, t) ∧ t.host = s.host) ∨
    ∃ h object previous netns t,
      handle = some h ∧ h.object = some object ∧
      s.host.openFile config.selfPath = .ok previous ∧
      s.host.namespaceOf? object = some netns ∧
      outcome (Scope.enter (provider config) context handle operation) s =
        (.ok ⟨operation,
          some ⟨h.name, some previous, savedSignals config s.host⟩⟩, t) ∧
      t.host = entered config s.host netns := by
  cases handle with
  | none =>
    exact Or.inl ⟨_, _, Scope.outcome_enter_closed _ operation s named, rfl⟩
  | some handle =>
    have entering := Scope.outcome_enter_open (provider config) handle
      operation s named
    rcases enter_cases (s := s.noting (.switching context.name operation))
      config handle maskable with ⟨e, failed⟩ |
        ⟨object, previous, netns, t, held, opening, leads, done, same⟩
    · rw [failed] at entering
      exact Or.inl ⟨_, _, entering, rfl⟩
    · rw [done] at entering
      exact Or.inr ⟨handle, object, previous, netns, t, rfl, held, opening,
        leads, entering, same⟩

/-- A scope is left by returning to where its switch has saved, or nothing
changes. -/
theorem scope_exit_cases (config : NamespaceConfig) (operation : String)
    (state : SwitchState) (s : Session Machine) :
    (∃ f t, outcome (Scope.exit (provider config) ⟨operation, some state⟩) s =
      (.error f, t) ∧ t.host = s.host) ∨
    ∃ previous netns t,
      state.previous = some previous ∧
      s.host.namespaceOf? previous = some netns ∧
      outcome (Scope.exit (provider config) ⟨operation, some state⟩) s =
        (.ok (), t) ∧
      t.host = returned state.signals s.host netns := by
  have leaving := Scope.outcome_restore (provider config) operation state s
  rcases exit_cases config state s with ⟨e, failed⟩ |
    ⟨previous, netns, t, saved, leads, done, same⟩
  · rw [failed] at leaving
    exact Or.inl ⟨_, _, leaving, rfl⟩
  · rw [done] at leaving
    exact Or.inr ⟨previous, netns, _, saved, leads, leaving, same⟩

end Scopes

end Machine
end InterfaceManager

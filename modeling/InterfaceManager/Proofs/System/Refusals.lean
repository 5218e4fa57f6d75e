import InterfaceManager.Proofs.System.Switching

/-!
# Switches that the kernel refuses

A switch of a thread fails exactly when the kernel refuses the namespace that
the descriptor leads to.  A switch that fails leaves the thread where it is,
and neither kind of switch touches the files.  A name opens exactly when its
file does.
-/

namespace InterfaceManager

open InterfaceManager.Action

/-- Whether a thread cannot be moved into a namespace. -/
def Kernel.refuses (k : Kernel) (netns : String) : Bool :=
  k.switchErrors.any fun entry => entry.1 == netns

namespace Machine

theorem switchTo_refused {m : Machine} {object : FileObject} {netns : String}
    (leads : m.namespaceOf? object = some netns)
    (refused : m.kernel.refuses netns = true) :
    ∃ e, m.switchTo object = .error e := by
  rcases found : m.kernel.switchErrors.find? fun entry => entry.1 == netns
    with _ | ⟨other, e⟩
  · rw [List.find?_eq_none] at found
    obtain ⟨entry, mem, same⟩ := List.any_eq_true.mp refused
    exact absurd same (found entry mem)
  · exact ⟨e, by simp [switchTo, leads, Kernel.switch, found, Except.map]⟩

theorem switchTo_moved {m : Machine} {object : FileObject} {netns : String}
    (leads : m.namespaceOf? object = some netns)
    (allowed : ¬ m.kernel.refuses netns = true) :
    m.switchTo object = .ok { m with current := netns } := by
  have found : (m.kernel.switchErrors.find? fun entry => entry.1 == netns) =
      none := by
    rw [List.find?_eq_none]
    intro entry mem same
    exact allowed (List.any_eq_true.mpr ⟨entry, mem, same⟩)
  simp [switchTo, leads, Kernel.switch, found, Except.map]

theorem exists_outcome_returnSignals (saved : Option SignalSet)
    (s : Session Machine) :
    ∃ blocked, outcome (returnSignals saved) s =
      (.ok (), { s with host := { s.host with blocked } }) := by
  cases saved with
  | none => exact ⟨s.host.blocked, rfl⟩
  | some signals => exact ⟨signals &&& SignalSet.blockable, rfl⟩

section Enter

variable {config : NamespaceConfig} {s : Session Machine}
  {object previous : FileObject}

/-- A thread that the kernel lets into a namespace is there afterwards. -/
theorem enter_switched {netns : String} (name : String)
    (leads : s.host.namespaceOf? object = some netns)
    (opening : s.host.openFile config.selfPath = .ok previous)
    (allowed : ¬ s.host.kernel.refuses netns = true) :
    ∃ t, outcome ((provider config).enter ⟨name, some object⟩) s =
        (.ok ⟨name, some previous, savedSignals config s.host⟩, t) ∧
      t.host = entered config s.host netns := by
  have switching := switchTo_moved
    (m := entered config s.host s.host.current) leads allowed
  let moved : Session Machine := ⟨entered config s.host netns, s.journal⟩
  refine ⟨moved.noting (.threadEntered name), ?_, rfl⟩
  simp only [provider, enter, outcome_bind, outcome_get, opening,
    outcome_saveSignals, switching]
  rfl

variable {name : String}
  (leads : s.host.namespaceOf? object = some name)
  (opening : s.host.openFile config.selfPath = .ok previous)

include leads opening

theorem enter_refused (refused : s.host.kernel.refuses name = true) :
    ∃ message t, outcome ((provider config).enter ⟨name, some object⟩) s =
        (.error (.error (.namespaceSwitch name message)), t) ∧
      t.host.files = s.host.files ∧ t.host.current = s.host.current := by
  obtain ⟨e, switching⟩ := switchTo_refused
    (m := entered config s.host s.host.current) leads refused
  obtain ⟨blocked, returning⟩ := exists_outcome_returnSignals
    (savedSignals config s.host)
    { s with host := entered config s.host s.host.current }
  refine ⟨e.symbolicMessage,
    { s with host := { s.host with blocked } }, ?_, rfl, rfl⟩
  simp only [provider, enter, outcome_bind, outcome_get, opening,
    outcome_saveSignals, switching, returning]
  rfl

theorem enter_moved (allowed : ¬ s.host.kernel.refuses name = true) :
    ∃ t, outcome ((provider config).enter ⟨name, some object⟩) s =
        (.ok ⟨name, some previous, savedSignals config s.host⟩, t) ∧
      t.host.files = s.host.files ∧ t.host.current = name := by
  obtain ⟨t, entering, host⟩ := enter_switched name leads opening allowed
  refine ⟨t, entering, ?_⟩
  rw [host]
  exact ⟨rfl, rfl⟩

end Enter

section Exit

variable (config : NamespaceConfig) (s : Session Machine)
  (state : SwitchState) {previous : FileObject} {back : String}
  (saved : state.previous = some previous)
  (leads : s.host.namespaceOf? previous = some back)

include saved leads

theorem exit_refused (refused : s.host.kernel.refuses back = true) :
    ∃ message, outcome ((provider config).exit state) s =
      (.error (.error (.namespaceSwitch state.target message)), s) := by
  obtain ⟨e, switching⟩ := switchTo_refused leads refused
  refine ⟨e.symbolicMessage, ?_⟩
  simp only [provider, leave, saved, outcome_bind, outcome_get, switching]
  rfl

/-- A thread that the kernel lets back is where it was, with the signals that
were saved. -/
theorem exit_switched (allowed : ¬ s.host.kernel.refuses back = true) :
    ∃ t, outcome ((provider config).exit state) s = (.ok (), t) ∧
      t.host = returned state.signals s.host back := by
  have switching := switchTo_moved leads allowed
  let moved : Session Machine :=
    ⟨returned state.signals s.host back, s.journal⟩
  refine ⟨moved.noting (.threadReturned state.target), ?_, rfl⟩
  simp only [provider, leave, saved, outcome_bind, outcome_get, switching]
  cases signals : state.signals <;>
    simp [returnSignals, restoreSignals, returned, moved, signals]

theorem exit_moved (allowed : ¬ s.host.kernel.refuses back = true) :
    ∃ t, outcome ((provider config).exit state) s = (.ok (), t) ∧
      t.host.files = s.host.files ∧ t.host.current = back := by
  obtain ⟨t, leaving, host⟩ := exit_switched config s state saved leads allowed
  refine ⟨t, leaving, ?_⟩
  rw [host]
  exact ⟨rfl, rfl⟩

end Exit

section Open

/-- What a descriptor opened under a name leads to. -/
def offered? (config : NamespaceConfig) (n : Machine) (name : String) :
    Option FileObject :=
  (config.namespacePath? name).bind fun path => (n.openFile path).toOption

variable {config : NamespaceConfig} {s : Session Machine} {name : String}

theorem open_refused (refused : s.host.offered? config name = none) :
    ∃ message t, outcome ((provider config).openHandle name) s =
        (.error (.error (.namespaceOpen name message)), t) ∧
      t.host = s.host := by
  rcases located : config.namespacePath? name with _ | path
  · exact ⟨"Invalid namespace name", s, by
      simp [provider, openHandle, located], rfl⟩
  · rcases failed : s.host.openFile path with fault | object
    · exact ⟨s!"{Text.decodeLossy path}: {fault.message}",
        s.noting (.fileOpening name (Text.decodeLossy path)),
        by simp [provider, openHandle, located, outcome_bind, failed], rfl⟩
    · simp [offered?, located, failed, Except.toOption] at refused

theorem open_known {object : FileObject}
    (offered : s.host.offered? config name = some object) :
    ∃ t, outcome ((provider config).openHandle name) s =
        (.ok ⟨name, some object⟩, t) ∧ t.host = s.host := by
  obtain ⟨path, located, opening⟩ := Option.bind_eq_some_iff.mp offered
  rcases opened : s.host.openFile path with fault | found
  · simp [opened, Except.toOption] at opening
  · rw [opened] at opening
    obtain rfl := Option.some.inj opening
    exact ⟨s.noting (.fileOpening name (Text.decodeLossy path)), by
      simp [provider, openHandle, located, outcome_bind, opened], rfl⟩

end Open

end Machine

end InterfaceManager

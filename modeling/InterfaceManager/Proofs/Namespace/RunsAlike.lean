import InterfaceManager.Proofs.Namespace.Plays
import InterfaceManager.Proofs.System.Refusals

/-!
# Runs that are alike

A run in memory and a run on a machine, of which both or neither are refused,
tell their closures the same, end alike, and leave the threads in the same
namespace.  In memory a switch back takes the innermost name off a stack, and
on a machine it goes where the switch in has saved; the two meet because the
innermost name is always where the thread of the machine is.
-/

namespace InterfaceManager

open InterfaceManager.Action

namespace MemoryNamespaces

variable {s : Session MemoryNamespaces} {name : String}

theorem open_refused (unknown : name ∉ s.host.known) :
    ∃ t, outcome (provider.openHandle name) s =
        (.error (.error
          (.namespaceOpen name "No such file or directory")), t) ∧
      t.host.stack = s.host.stack := by
  simp [provider, openHandle, outcome_bind, unknown]

theorem open_known (known : name ∈ s.host.known) :
    ∃ t, outcome (provider.openHandle name) s = (.ok (.detached name), t) ∧
      t.host.stack = s.host.stack := by
  simp [provider, openHandle, outcome_bind, outcome_map, known, Except.map]

theorem enter_refused (refused : name ∈ s.host.failingEnter) :
    ∃ t, outcome (provider.enter (.detached name)) s =
        (.error (.error
          (.namespaceSwitch name "Operation not permitted")), t) ∧
      t.host.stack = s.host.stack := by
  simp [provider, enter, outcome_bind, refused, Handle.detached]

theorem enter_moved (allowed : name ∉ s.host.failingEnter) :
    ∃ t, outcome (provider.enter (.detached name)) s =
        (.ok (.detached name), t) ∧
      t.host.stack = name :: s.host.stack := by
  simp [provider, enter, outcome_bind, outcome_map, allowed,
    Handle.detached, Except.map]

theorem exit_refused (refused : name ∈ s.host.failingExit) :
    ∃ t, outcome (provider.exit (.detached name)) s =
        (.error (.error (.namespaceSwitch name "Invalid argument")), t) ∧
      t.host.stack = s.host.stack := by
  simp [provider, exit, outcome_bind, refused, SwitchState.detached]

theorem exit_moved (allowed : name ∉ s.host.failingExit) :
    ∃ t, outcome (provider.exit (.detached name)) s = (.ok (), t) ∧
      t.host.stack = s.host.stack.drop 1 := by
  simp [provider, exit, outcome_bind, allowed, SwitchState.detached]

end MemoryNamespaces

/-! ## Being alike -/

/-- Two ways of ending that differ at most in the wording of a failure of the
provider. -/
inductive SameEnd : Outcome α → Outcome α → Prop
  | same (answer : Outcome α) : SameEnd answer answer
  | notOpened (netns message other : String) :
      SameEnd (.error (.error (.namespaceOpen netns message)))
        (.error (.error (.namespaceOpen netns other)))
  | notSwitched (netns message other : String) :
      SameEnd (.error (.error (.namespaceSwitch netns message)))
        (.error (.error (.namespaceSwitch netns other)))
  | notRestored (netns message other : String) (primary : Option Error) :
      SameEnd (.error (.error (.namespaceRestore netns message primary)))
        (.error (.error (.namespaceRestore netns other primary)))

theorem SameEnd.map {first second : Outcome α} (same : SameEnd first second)
    (g : α → β) : SameEnd (first.map g) (second.map g) := by
  cases same with
  | same answer => exact .same _
  | notOpened => exact .notOpened ..
  | notSwitched => exact .notSwitched ..
  | notRestored => exact .notRestored ..

theorem SameEnd.stranded (answer : Outcome α) (netns message other : String) :
    SameEnd
      (Scope.ending answer
        (.error (.error (.namespaceRestore netns message none))))
      (Scope.ending answer
        (.error (.error (.namespaceRestore netns other none)))) := by
  rcases answer with (e | panicked) | value
  · exact .notRestored netns message other (some e)
  · exact .same (.error (.panic panicked))
  · exact .notRestored netns message other none

/-- A handle in memory and one of a machine that are both closed, or lead to
the same namespace. -/
inductive SameHandle (m : Machine) : Option Handle → Option Handle → Prop
  | closed : SameHandle m none none
  | opened {name : String} {object : FileObject}
      (leads : m.namespaceOf? object = some name) :
      SameHandle m (some (.detached name)) (some ⟨name, some object⟩)

/-- The files of a machine are all those of another one and maybe more. -/
def Machine.KeepsFiles (m n : Machine) : Prop :=
  m.files.contents <+: n.files.contents

theorem Machine.KeepsFiles.leads {m n : Machine} (keeps : m.KeepsFiles n)
    {object : FileObject} {netns : String}
    (leads : m.namespaceOf? object = some netns) :
    n.namespaceOf? object = some netns := by
  cases object with
  | «namespace» other => exact leads
  | other => cases leads
  | file number =>
    obtain ⟨more, grown⟩ := keeps
    rcases held : m.files.contents[number]? with _ | contents
    · simp [namespaceOf?, held] at leads
    · have later : n.files.contents[number]? = some contents := by
        rw [← grown, List.getElem?_append_left, held]
        exact (List.getElem?_eq_some_iff.mp held).1
      rw [namespaceOf?, held] at leads
      rw [namespaceOf?, later]
      exact leads

theorem Machine.keepsFiles_of_eq {m n : Machine} (same : n.files = m.files) :
    m.KeepsFiles n := by
  unfold KeepsFiles
  exact same ▸ List.prefix_refl _

theorem Machine.keepsFiles_staged (m : Machine) (staging : Staging) :
    m.KeepsFiles (m.staged staging) :=
  List.prefix_append _ _

theorem SameHandle.later {m n : Machine} (keeps : m.KeepsFiles n)
    {h k : Option Handle} (same : SameHandle m h k) : SameHandle n h k := by
  cases same with
  | closed => exact .closed
  | opened leads => exact .opened (keeps.leads leads)

/-! ## Runs alike -/

def MemoryNamespaces.rig : Rig MemoryNamespaces :=
  ⟨provider, staged, current⟩

def Machine.rig (config : NamespaceConfig) : Rig Machine :=
  ⟨provider config, staged, Machine.current⟩

/-- The file of the current namespace can be used.  Both hosts refuse to enter
a namespace, or neither does; if they let the thread in, both refuse to let it
out after the staging, or neither does. -/
def RefuseAlike (config : NamespaceConfig) (staging : Staging)
    (name : String) (m : MemoryNamespaces) (n : Machine) : Prop :=
  (n.openFile config.selfPath).toOption.bind n.namespaceOf? =
      some n.current ∧
    (name ∈ m.failingEnter ↔ n.kernel.refuses name = true) ∧
    (name ∉ m.failingEnter →
      (name ∈ staging.failingExit ↔
        staging.kernel.refuses n.current = true))

instance (config : NamespaceConfig) (staging : Staging) (name : String)
    (m : MemoryNamespaces) (n : Machine) :
    Decidable (RefuseAlike config staging name m n) :=
  inferInstanceAs (Decidable (_ ∧ _))

theorem exists_of_toOption_bind {answer : Except ε α} {g : α → Option β}
    {b : β} (found : answer.toOption.bind g = some b) :
    ∃ a, answer = .ok a ∧ g a = some b := by
  cases answer with
  | error e => cases found
  | ok a => exact ⟨a, rfl, found⟩

section Visit

variable {config : NamespaceConfig} {staging : Staging} {context : Context}
  {h k : Option Handle} {s : Session MemoryNamespaces} {t : Session Machine}

theorem current_of_stack_eq {m n : MemoryNamespaces}
    (same : m.stack = n.stack) : m.current = n.current := by
  rw [MemoryNamespaces.current, same]
  rfl

section Open

variable (here : s.host.current = t.host.current)
  (named : context.isDefault = false) {name : String} {object : FileObject}
  (leads : t.host.namespaceOf? object = some name)
  (alike : RefuseAlike config staging name s.host t.host)
  (operation : String) (closure : String → Outcome α)

include here named leads alike

/-- Threads that are let in are both stranded, or both come back. -/
theorem visit_entered_alike (refused : name ∉ s.host.failingEnter) :
    let first := MemoryNamespaces.rig.visit context (some (.detached name))
      operation staging closure s
    let second := (Machine.rig config).visit context
      (some ⟨name, some object⟩) operation staging closure t
    first.1 = second.1 ∧ SameEnd first.2.1 second.2.1 ∧
      first.2.2.host.current = second.2.2.host.current ∧
      t.host.KeepsFiles second.2.2.host := by
  obtain ⟨selfOpens, enters, exits⟩ := alike
  obtain ⟨previous, opening, back⟩ := exists_of_toOption_bind selfOpens
  let asked := s.noting (.switching context.name operation)
  let asked' := t.noting (.switching context.name operation)
  obtain ⟨u, entering, stack⟩ :=
    MemoryNamespaces.enter_moved (s := asked) refused
  obtain ⟨u', entering', files, current⟩ :=
    Machine.enter_moved (s := asked') leads opening (mt enters.mpr refused)
  let state : SwitchState :=
    ⟨name, some previous, Machine.savedSignals config t.host⟩
  let set : Session MemoryNamespaces :=
    { u with host := u.host.staged staging }
  let set' : Session Machine := { u' with host := u'.host.staged staging }
  have keeps : t.host.KeepsFiles set'.host := by
    have grown := u'.host.keepsFiles_staged staging
    rwa [Machine.KeepsFiles, files] at grown
  have inMemory : set.host.current = name := by
    simp [MemoryNamespaces.current, set, MemoryNamespaces.staged, stack]
  have inside : set.host.current = set'.host.current :=
    inMemory.trans current.symm
  have told : MemoryNamespaces.rig.current
      (MemoryNamespaces.rig.staged u.host staging) =
    (Machine.rig config).current
      ((Machine.rig config).staged u'.host staging) := inside
  by_cases stuck : name ∈ staging.failingExit
  · obtain ⟨v, leaving, left⟩ :=
      MemoryNamespaces.exit_refused (s := set) stuck
    obtain ⟨message, leaving'⟩ := Machine.exit_refused config set' state rfl
      (keeps.leads back) ((exits refused).mp stuck)
    rw [MemoryNamespaces.rig.visit_stranded _ _ _ named entering leaving,
      (Machine.rig config).visit_stranded _ _ _ named entering' leaving']
    refine ⟨congrArg (fun here => [here]) inside, ?_,
      (current_of_stack_eq left).trans inside, keeps⟩
    dsimp only
    rw [told]
    exact .stranded _ name "Invalid argument" message
  · obtain ⟨v, leaving, left⟩ :=
      MemoryNamespaces.exit_moved (s := set) stuck
    obtain ⟨v', leaving', files', current'⟩ := Machine.exit_moved
      config set' state rfl (keeps.leads back)
      (mt (exits refused).mpr stuck)
    rw [MemoryNamespaces.rig.visit_returned _ _ _ named entering leaving,
      (Machine.rig config).visit_returned _ _ _ named entering' leaving']
    have popped : v.host.stack = s.host.stack := by
      rw [left]
      simp [set, MemoryNamespaces.staged, stack, asked]
    dsimp only
    rw [told]
    exact ⟨rfl, .same _, (current_of_stack_eq popped).trans
      (here.trans current'.symm), by
        rw [Machine.KeepsFiles] at keeps ⊢
        exact files' ▸ keeps⟩

/-- With open handles, both switches fail, both are stranded, or both come
back. -/
theorem visit_open_alike :
    let first := MemoryNamespaces.rig.visit context (some (.detached name))
      operation staging closure s
    let second := (Machine.rig config).visit context
      (some ⟨name, some object⟩) operation staging closure t
    first.1 = second.1 ∧ SameEnd first.2.1 second.2.1 ∧
      first.2.2.host.current = second.2.2.host.current ∧
      t.host.KeepsFiles second.2.2.host := by
  by_cases refused : name ∈ s.host.failingEnter
  · obtain ⟨selfOpens, enters, -⟩ := alike
    obtain ⟨previous, opening, -⟩ := exists_of_toOption_bind selfOpens
    let asked := s.noting (.switching context.name operation)
    let asked' := t.noting (.switching context.name operation)
    obtain ⟨u, entering, stack⟩ :=
      MemoryNamespaces.enter_refused (s := asked) refused
    obtain ⟨message, u', entering', files, current⟩ :=
      Machine.enter_refused (s := asked') leads opening (enters.mp refused)
    rw [MemoryNamespaces.rig.visit_refused _ _ _ named entering,
      (Machine.rig config).visit_refused _ _ _ named entering']
    exact ⟨rfl, .notSwitched .., (current_of_stack_eq stack).trans
      (here.trans current.symm), Machine.keepsFiles_of_eq files⟩
  · exact visit_entered_alike here named leads alike operation closure refused

end Open

/-- A run in memory and one on a machine tell their closures the same, end
alike and leave the threads in the same namespace. -/
theorem visit_alike (here : s.host.current = t.host.current)
    (handles : SameHandle t.host h k)
    (alike : context.isDefault = false → ∀ handle, h = some handle →
      RefuseAlike config staging handle.name s.host t.host)
    (operation : String) (closure : String → Outcome α) :
    let first := MemoryNamespaces.rig.visit context h operation staging
      closure s
    let second := (Machine.rig config).visit context k operation staging
      closure t
    first.1 = second.1 ∧ SameEnd first.2.1 second.2.1 ∧
      first.2.2.host.current = second.2.2.host.current ∧
      t.host.KeepsFiles second.2.2.host := by
  cases named : context.isDefault with
  | true =>
    rw [Rig.visit_default _ _ _ _ named, Rig.visit_default _ _ _ _ named]
    have same : MemoryNamespaces.rig.current
        (MemoryNamespaces.rig.staged s.host staging) =
          (Machine.rig config).current
            ((Machine.rig config).staged t.host staging) := here
    dsimp only
    rw [same]
    exact ⟨rfl, .same _, here, t.host.keepsFiles_staged staging⟩
  | false =>
    cases handles with
    | closed =>
      rw [Rig.visit_closed _ _ _ _ named, Rig.visit_closed _ _ _ _ named]
      exact ⟨rfl, .same _, here, Machine.keepsFiles_of_eq rfl⟩
    | @opened name object leads =>
      exact visit_open_alike here named leads (alike named _ rfl) operation
        closure

end Visit

end InterfaceManager

import InterfaceManager.InMemory.Backend
import InterfaceManager.Proofs.Namespace.Scope
import InterfaceManager.System.Namespaces
import Mathlib.Data.List.Forall2

/-!
# Nested runs inside namespaces

Runs inside namespaces, each the operation of the one around it.  The calls
on record are the switches in, the innermost operation, and the switches back
in the opposite order.  No failure is lost on the way out: the chain of primary
errors names the failed switches back, from the outermost to the innermost, and
ends with the failure of the innermost operation.
-/

namespace InterfaceManager

open InterfaceManager.Action

namespace Error

/-- An error that has a primary error or is no failed switch back takes no
other primary error. -/
theorem withPrimary_settled {e : Error}
    (settled : e.primary?.isSome = true ∨ e.isRestoreFailure = false)
    (failure : Error) : e.withPrimary failure = e := by
  cases e with
  | namespaceRestore netns message primary =>
    cases primary with
    | none => rcases settled with absent | other <;> contradiction
    | some primary => rfl
  | _ => rfl

theorem foldl_withPrimary_settled {e : Error}
    (settled : e.primary?.isSome = true ∨ e.isRestoreFailure = false)
    (failures : List Error) : failures.foldl withPrimary e = e := by
  induction failures with
  | nil => rfl
  | cons failure failures ih =>
    rw [List.foldl_cons, withPrimary_settled settled, ih]

/-- The namespace and the message of a failed switch back. -/
def switchBack? : Error → Option (String × String)
  | namespaceRestore netns message _ => some (netns, message)
  | _ => none

theorem isRestoreFailure_of_switchBack? {e : Error} {failure : String × String}
    (names : e.switchBack? = some failure) : e.isRestoreFailure = true := by
  cases e with
  | namespaceRestore => rfl
  | _ => cases names

/-- The failure of an operation and its primary errors. -/
def trail : Except Error α → List Error
  | .ok _ => []
  | .error e => e :: e.primaries

end Error

/-- The end of an action that does not panic. -/
def Outcome.answered (answer : Except Error α) : Outcome α :=
  answer.mapError .error

theorem Outcome.answered_injective :
    Function.Injective (Outcome.answered (α := α)) := by
  intro r t same
  rcases r with e | value <;> rcases t with f | other <;> cases same <;> rfl

/-- One of several nested runs: where it takes place, and what its operation
does before and after the run inside it. -/
structure Layer (η : Type) where
  context : Context
  handle : Handle
  operation : String
  before : Session η → Session η
  after : Session η → Session η

namespace Layer

/-- The operation of a layer, which ends as the run inside it does. -/
def around (l : Layer η) (inner : Action (Session η) α) :
    Action (Session η) α := do
  modify l.before
  let answer ← tried inner
  modify l.after
  ofExcept answer

/-- The layer on a host with a record of calls, which it does not touch. -/
def recorded (l : Layer η) : Layer (Recorded κ η) :=
  { l with
    before := fun s => (l.before ⟨s.host.host, s.journal⟩).record s.host.calls
    after := fun s => (l.after ⟨s.host.host, s.journal⟩).record s.host.calls }

theorem outcome_around (l : Layer η) (inner : Action (Session η) α)
    (s : Session η) :
    outcome (l.around inner) s =
      match outcome inner (l.before s) with
      | (.ok value, t) => (.ok value, l.after t)
      | (.error (.error e), t) => (.error (.error e), l.after t)
      | (.error (.panic message), t) => (.error (.panic message), t) := by
  simp only [around, outcome_bind, outcome_modify, outcome_tried]
  rcases outcome inner (l.before s) with ⟨(e | message) | value, t⟩ <;> rfl

/-- The operation of a layer adds nothing to the record. -/
theorem around_recorded (l : Layer η) {inner : Action (Session η) α}
    {recording : Action (Session (Recorded κ η)) α} {s t : Session η}
    {calls later : List κ} {answer : Outcome α}
    (recorded : outcome recording ((l.before s).record calls) =
      (answer, t.record later))
    (plain : outcome inner (l.before s) = (answer, t)) :
    ∃ u,
      outcome (l.recorded.around recording) (s.record calls) =
        (answer, u.record later) ∧
      outcome (l.around inner) s = (answer, u) := by
  have same : outcome recording (l.recorded.before (s.record calls)) =
      (answer, t.record later) := recorded
  rw [outcome_around, outcome_around, same, plain]
  rcases answer with (e | message) | value
  · exact ⟨l.after t, rfl, rfl⟩
  · exact ⟨t, rfl, rfl⟩
  · exact ⟨l.after t, rfl, rfl⟩

end Layer

/-- Runs inside namespaces, the first layer outermost, around an operation. -/
def nested (provider : NamespaceProvider η) (act : Action (Session η) α) :
    List (Layer η) → Action (Session η) α
  | [] => act
  | l :: layers =>
    runInNamespace provider l.context (some l.handle) l.operation
      (l.around (nested provider act layers))

/-! ## Switches back -/

/-- A switch back: the state of the switch in, and how the provider
answered. -/
structure SwitchedBack where
  state : SwitchState
  answer : Except Error Unit

namespace SwitchedBack

/-- The namespace and the message of a switch back that failed. -/
def failure? (back : SwitchedBack) : Option (String × String) :=
  match back.answer with
  | .ok () => none
  | .error e => some (back.state.target, e.reason)

/-- How a run ends whose operation ended as given. -/
def closing (back : SwitchedBack) (inner : Except Error α) : Except Error α :=
  match back.answer, inner with
  | .ok (), inner => inner
  | .error e, .ok _ => .error (Scope.restoreError back.state.target e)
  | .error e, .error failure =>
    .error ((Scope.restoreError back.state.target e).withPrimary failure)

theorem ending_restore {provider : NamespaceProvider η} {operation : String}
    (back : SwitchedBack) {s : Session η}
    (answer : (outcome (provider.exit back.state) s).1 =
      Outcome.answered back.answer)
    (inner : Except Error α) :
    Scope.ending (Outcome.answered inner)
        (outcome (Scope.restore provider operation back.state) s).1 =
      Outcome.answered (back.closing inner) := by
  obtain ⟨state, answered⟩ := back
  rw [Scope.outcome_restore]
  rcases leaving : outcome (provider.exit state) s with ⟨left, t⟩
  rw [leaving] at answer
  subst answer
  rcases answered with e | ⟨⟩ <;> rcases inner with failure | value <;> rfl

/-- A switch back that succeeds changes nothing, and one that fails comes
first in the trail. -/
theorem trail_closing (back : SwitchedBack) (inner : Except Error α) :
    ∃ restores,
      Error.trail (back.closing inner) = restores ++ Error.trail inner ∧
      restores.map Error.switchBack? = back.failure?.toList.map some := by
  obtain ⟨state, e | ⟨⟩⟩ := back
  · have stated := Scope.restoreError_eq state.target e
    rcases inner with failure | value
    · refine ⟨[.namespaceRestore state.target e.reason (some failure)], ?_, rfl⟩
      simp only [closing, stated]
      rfl
    · refine ⟨[.namespaceRestore state.target e.reason none], ?_, rfl⟩
      simp only [closing, stated]
      rfl
  · exact ⟨[], rfl, rfl⟩

/-- The trail of nested runs: the failed switches back, and the trail of the
innermost operation. -/
theorem trail_foldr_closing (backs : List SwitchedBack)
    (inner : Except Error α) :
    ∃ restores,
      Error.trail (backs.foldr closing inner) = restores ++ Error.trail inner ∧
      restores.map Error.switchBack? =
        (backs.filterMap failure?).map some := by
  induction backs with
  | nil => exact ⟨[], rfl, rfl⟩
  | cons back backs ih =>
    obtain ⟨later, trail, named⟩ := ih
    obtain ⟨first, outer, own⟩ := back.trail_closing (backs.foldr closing inner)
    refine ⟨first ++ later, ?_, ?_⟩
    · rw [List.foldr_cons, outer, trail, List.append_assoc]
    · rw [List.map_append, own, named, ← List.map_append]
      cases failed : back.failure? <;> simp [failed]

theorem foldr_closing_of_no_failure {backs : List SwitchedBack}
    (noFailure : backs.filterMap failure? = []) (inner : Except Error α) :
    backs.foldr closing inner = inner := by
  induction backs with
  | nil => rfl
  | cons back backs ih =>
    obtain ⟨own, others⟩ :=
      List.forall_mem_cons.mp (List.filterMap_eq_nil_iff.mp noFailure)
    rw [List.foldr_cons, ih (List.filterMap_eq_nil_iff.mpr others)]
    obtain ⟨state, e | ⟨⟩⟩ := back
    · cases own
    · rfl

end SwitchedBack

/-! ## The record of nested runs -/

/-- What is asked of the calls on record: every switch in succeeds, and no
other call panics. -/
def ScopeEvent.Smooth : ScopeEvent α → Prop
  | .call (.opened _ _) => True
  | .call (.entered _ answer) => ∃ state, answer = .ok state
  | .call (.left _ answer) => ∀ message, answer ≠ .error (.panic message)
  | .ran answer => ∀ message, answer ≠ .error (.panic message)

/-- A provider saves the name of the namespace that was entered. -/
def NamespaceProvider.NamesTarget (provider : NamespaceProvider η) : Prop :=
  ∀ handle s state t,
    outcome (provider.enter handle) s = (.ok state, t) →
      state.target = handle.name

theorem MemoryNamespaces.provider_namesTarget : provider.NamesTarget := by
  intro handle s state t entering
  obtain ⟨_, _, -, entering⟩ := outcome_bind_ok entering
  obtain ⟨_, _, -, entering⟩ := outcome_bind_ok entering
  split at entering
  · cases entering
  · obtain ⟨_, _, -, entering⟩ := outcome_bind_ok entering
    obtain ⟨_, _, -, entering⟩ := outcome_bind_ok entering
    obtain ⟨_, _, -, entering⟩ := outcome_bind_ok entering
    cases entering
    rfl

theorem MemoryHost.provider_namesTarget : provider.NamesTarget := by
  intro handle s state t entering
  obtain ⟨_, _, -, entering⟩ := outcome_bind_ok entering
  split at entering
  · obtain ⟨_, _, -, entering⟩ := outcome_bind_ok entering
    cases entering
  · rw [onNamespaces, outcome_focus] at entering
    obtain ⟨ended, -⟩ := Prod.mk.inj entering
    exact MemoryNamespaces.provider_namesTarget handle _ state _
      (Prod.ext ended rfl)

theorem Machine.provider_namesTarget (config : NamespaceConfig) :
    (provider config).NamesTarget := by
  intro handle s state t entering
  simp only [provider, enter] at entering
  split at entering
  · cases entering
  · obtain ⟨u, v, read, entering⟩ := outcome_bind_ok entering
    split at entering
    · cases entering
    · obtain ⟨saved, w, -, entering⟩ := outcome_bind_ok entering
      obtain ⟨x, y, -, entering⟩ := outcome_bind_ok entering
      split at entering
      · obtain ⟨_, _, -, entering⟩ := outcome_bind_ok entering
        cases entering
      · obtain ⟨_, _, -, entering⟩ := outcome_bind_ok entering
        obtain ⟨_, _, -, entering⟩ := outcome_bind_ok entering
        cases entering
        rfl

/-- The calls of nested runs and how they end, given the switches back from
the outermost to the innermost and the end of the innermost operation. -/
structure Unwinds (provider : NamespaceProvider η) (layers : List (Layer η))
    (backs : List SwitchedBack) (inner : Except Error α)
    (events : List (ScopeEvent α)) (result : Outcome α) : Prop where
  switched : List.Forall₂ (fun (l : Layer η) (back : SwitchedBack) =>
    provider.NamesTarget → l.handle.name = l.context.name →
      back.state.target = l.context.name) layers backs
  events_eq : events =
    List.zipWith (fun (l : Layer η) (back : SwitchedBack) =>
      .call (.entered l.handle (.ok back.state))) layers backs ++
    .ran (Outcome.answered inner) ::
    (backs.map fun back =>
      .call (.left back.state (Outcome.answered back.answer))).reverse
  result_eq : result = Outcome.answered (backs.foldr SwitchedBack.closing inner)

theorem exists_answered {answer : Outcome α}
    (answers : ∀ message, answer ≠ .error (.panic message)) :
    ∃ r, answer = Outcome.answered r := by
  rcases answer with (e | message) | value
  · exact ⟨.error e, rfl⟩
  · exact absurd rfl (answers message)
  · exact ⟨.ok value, rfl⟩

/-- Another layer around nested runs that was switched into and back. -/
theorem Unwinds.around {provider : NamespaceProvider η}
    {layers : List (Layer η)} {backs : List SwitchedBack}
    {inner : Except Error α} {events : List (ScopeEvent α)}
    {result : Outcome α}
    (unwinds : Unwinds provider layers backs inner events result)
    {l : Layer η} {s t u : Session η} {state : SwitchState}
    (entering : outcome (provider.enter l.handle) s = (.ok state, t))
    {left : Except Error Unit}
    (leaving : (outcome (provider.exit state) u).1 = Outcome.answered left) :
    Unwinds provider (l :: layers) (⟨state, left⟩ :: backs) inner
      (.call (.entered l.handle (.ok state)) :: events ++
        [.call (.left state (Outcome.answered left))])
      (Scope.ending result
        (outcome (Scope.restore provider l.operation state) u).1) where
  switched := .cons
    (fun names same => (names l.handle s state t entering).trans same)
    unwinds.switched
  events_eq := by simp [unwinds.events_eq]
  result_eq := by
    rw [unwinds.result_eq]
    exact SwitchedBack.ending_restore ⟨state, left⟩ leaving _

/-- Nested runs leave a record of their calls.  If every switch in succeeds
and nothing panics, it says how the runs unwind. -/
theorem exists_record_nested (provider : NamespaceProvider η)
    (act : Action (Session η) α) {layers : List (Layer η)}
    (named : ∀ l ∈ layers, l.context.isDefault = false) (s : Session η)
    (calls : List (ScopeEvent α)) :
    ∃ events result t,
      outcome
          (nested (provider.recorded ScopeEvent.call)
            (act.recorded ScopeEvent.ran) (layers.map Layer.recorded))
          (s.record calls) =
        (result, t.record (calls ++ events)) ∧
      outcome (nested provider act layers) s = (result, t) ∧
      ((∀ event ∈ events, event.Smooth) →
        ∃ backs inner, Unwinds provider layers backs inner events result) := by
  induction layers generalizing s calls with
  | nil =>
    refine ⟨[.ran (outcome act s).1], _, (outcome act s).2,
      outcome_recorded _ act s calls, rfl, fun smooth => ?_⟩
    obtain ⟨inner, answer⟩ := exists_answered (smooth _ List.mem_cons_self)
    exact ⟨[], inner, .nil, by rw [answer]; rfl, answer⟩
  | cons l layers ih =>
    obtain ⟨own, others⟩ := List.forall_mem_cons.mp named
    let recording := nested (provider.recorded ScopeEvent.call)
      (act.recorded ScopeEvent.ran) (layers.map Layer.recorded)
    change ∃ events result t,
      outcome (runInNamespace (provider.recorded .call) l.context
          (some l.handle) l.operation (l.recorded.around recording))
        (s.record calls) = (result, t.record (calls ++ events)) ∧
      outcome (runInNamespace provider l.context (some l.handle) l.operation
          (l.around (nested provider act layers))) s = (result, t) ∧ _
    have asked := provider.outcome_recorded_enter (κ := ScopeEvent α) .call
      (s.noting (.switching l.context.name l.operation)) calls l.handle
    -- The runs inside take place only if the switch in succeeds.
    rcases entering : outcome (provider.enter l.handle)
        (s.noting (.switching l.context.name l.operation))
      with ⟨(e | message) | state, t⟩ <;>
      simp only [entering] at asked
    · refine ⟨[.call (.entered l.handle (.error (.error e)))], _,
        t.noting (.switchFailed l.context.name l.operation e),
        (outcome_runInNamespace_refused _ _ _ _ l.handle own asked).trans rfl,
        outcome_runInNamespace_refused _ _ _ _ l.handle own entering,
        fun smooth => ?_⟩
      obtain ⟨state, entered⟩ := smooth _ List.mem_cons_self
      cases entered
    · refine ⟨_, _, t,
        outcome_runInNamespace_enter_panic _ _ _ _ l.handle own asked,
        outcome_runInNamespace_enter_panic _ _ _ _ l.handle own entering,
        fun smooth => ?_⟩
      obtain ⟨state, entered⟩ := smooth _ List.mem_cons_self
      cases entered
    · obtain ⟨events, result, u, recorded, plain, unwinds⟩ :=
        ih others (l.before t)
          (calls ++ [.call (.entered l.handle (.ok state))])
      obtain ⟨v, around, inside⟩ := l.around_recorded recorded plain
      let back := outcome (Scope.restore provider l.operation state) v
      let left := (outcome (provider.exit state) v).1
      refine ⟨.call (.entered l.handle (.ok state)) :: events ++
        [.call (.left state left)], Scope.ending result back.1, back.2,
        ?_, ?_, fun smooth => ?_⟩
      · rw [outcome_runInNamespace_entered _ _ _ _ l.handle own asked, around,
          Scope.outcome_restore_recorded]
        simp [back, left]
      · rw [outcome_runInNamespace_entered _ _ _ _ l.handle own entering,
          inside]
      · obtain ⟨backs, inner, unwinds⟩ := unwinds fun event among =>
          smooth event (by simp [among])
        have answers : ∀ message, left ≠ .error (.panic message) :=
          smooth (.call (.left state left)) (by simp)
        obtain ⟨answer, leaving⟩ := exists_answered answers
        rw [leaving]
        exact ⟨_, inner, unwinds.around entering leaving⟩

/-- The record of nested runs, and how they end.  Recording changes nothing.
If every switch in succeeds and nothing panics, the calls are the switches in,
the innermost operation, and the switches back from the innermost to the
outermost.  If all of these succeed, the runs end as the innermost operation.
Otherwise they end with a failed switch back, whose primary errors are the other
failed switches back, from the outermost to the innermost, and then the failure
of the innermost operation with its own primary errors, if it failed.  An error
that has a primary error or is no failed switch back takes no other one. -/
theorem nested_loses_no_failure (provider : NamespaceProvider η)
    (act : Action (Session η) α) (layers : List (Layer η))
    (named : ∀ l ∈ layers, l.context.isDefault = false) (s : Session η) :
    (∃ (events : List (ScopeEvent α)) (result : Outcome α) (t : Session η),
      outcome
          (nested (provider.recorded ScopeEvent.call)
            (act.recorded ScopeEvent.ran) (layers.map Layer.recorded))
          (s.record []) =
        (result, t.record events) ∧
      outcome (nested provider act layers) s = (result, t) ∧
      ((∀ event ∈ events, event.Smooth) →
        ∃ (backs : List SwitchedBack) (inner : Except Error α),
          List.Forall₂ (fun l back =>
            provider.NamesTarget → l.handle.name = l.context.name →
              back.state.target = l.context.name) layers backs ∧
          events =
            List.zipWith (fun l back =>
              .call (.entered l.handle (.ok back.state))) layers backs ++
            .ran (Outcome.answered inner) ::
            (backs.map fun back =>
              .call (.left back.state (Outcome.answered back.answer))).reverse ∧
          (backs.filterMap SwitchedBack.failure? = [] →
            result = Outcome.answered inner) ∧
          (backs.filterMap SwitchedBack.failure? ≠ [] →
            ∃ e restores, result = .error (.error e) ∧
              e.isRestoreFailure = true ∧
              e :: e.primaries = restores ++ Error.trail inner ∧
              restores.map Error.switchBack? =
                (backs.filterMap SwitchedBack.failure?).map some))) ∧
    ∀ (e : Error) (failures : List Error),
      (e.primary?.isSome = true ∨ e.isRestoreFailure = false) →
        failures.foldl Error.withPrimary e = e := by
  obtain ⟨events, result, t, recorded, plain, unwinds⟩ :=
    exists_record_nested provider act named s []
  refine ⟨⟨events, result, t, recorded, plain, fun smooth => ?_⟩,
    fun e failures settled => Error.foldl_withPrimary_settled settled failures⟩
  obtain ⟨backs, inner, unwound⟩ := unwinds smooth
  refine ⟨backs, inner, unwound.switched, unwound.events_eq,
    fun noFailure => ?_, fun failed => ?_⟩
  · rw [unwound.result_eq, SwitchedBack.foldr_closing_of_no_failure noFailure]
  · obtain ⟨restores, trail, names⟩ :=
      SwitchedBack.trail_foldr_closing backs inner
    rcases restores with _ | ⟨restore, restores⟩
    · exact absurd (List.map_eq_nil_iff.mp names.symm) failed
    · rcases ended : backs.foldr SwitchedBack.closing inner with e | value <;>
        rw [ended] at trail
      · have first : restore = e := (List.cons.inj trail).1.symm
        refine ⟨e, restore :: restores, ?_, ?_, trail, names⟩
        · rw [unwound.result_eq, ended]
          rfl
        · obtain ⟨failure, -, own⟩ := List.exists_of_mem_map
            (names ▸ List.mem_map_of_mem List.mem_cons_self)
          exact Error.isRestoreFailure_of_switchBack? (first ▸ own.symm)
      · cases trail

/-- The layer of a run in the namespace called `name`, whose operation is
just the run inside it. -/
def layerIn (id : Nat) (name : String) : Layer MemoryHost where
  context := ⟨id, name⟩
  handle := .detached name
  operation := "nested"
  before := fun s => s
  after := fun s => s

/-- A host that cannot be switched back from two of its namespaces. -/
def stickyHost : MemoryHost :=
  .ofParts { MemoryNamespaces.ofNames ["ns_a", "ns_b", "ns_c"] with
    failingExit := ["ns_a", "ns_c"] } .empty .current

theorem nested_on_stickyHost :
    let layers := [layerIn 0 "ns_a", layerIn 1 "ns_b", layerIn 2 "ns_c"]
    let act : Action (Session MemoryHost) Unit := fail (.noSuchDevice ⟨3⟩)
    (∀ l ∈ layers, l.context.isDefault = false) ∧
    ∃ e, (outcome (nested MemoryHost.provider act layers)
        (Session.start stickyHost)).1 = .error (.error e) ∧
      (e :: e.primaries).map Error.switchBack? =
        [some ("ns_a", "Invalid argument"), some ("ns_c", "Invalid argument"),
          none] := by
  intro layers act
  have named : ∀ l ∈ layers, l.context.isDefault = false := by
    decide
  obtain ⟨⟨events, result, t, recorded, plain, unwinds⟩, -⟩ :=
    nested_loses_no_failure MemoryHost.provider act layers named
      (Session.start stickyHost)
  have calls : events =
      [.call (.entered (.detached "ns_a") (.ok (.detached "ns_a"))),
        .call (.entered (.detached "ns_b") (.ok (.detached "ns_b"))),
        .call (.entered (.detached "ns_c") (.ok (.detached "ns_c"))),
        .ran (.error (.error (.noSuchDevice ⟨3⟩))),
        .call (.left (.detached "ns_c") (.error (.error
          (.namespaceSwitch "ns_c" "Invalid argument")))),
        .call (.left (.detached "ns_b") (.ok ())),
        .call (.left (.detached "ns_a") (.error (.error
          (.namespaceSwitch "ns_a" "Invalid argument"))))] := by
    exact (congrArg (fun run => run.2.host.calls) recorded).symm
  have smooth : ∀ event ∈ events, event.Smooth := by
    simp [calls, ScopeEvent.Smooth]
  obtain ⟨backs, inner, switched, shown, -, ends⟩ := unwinds smooth
  obtain ⟨a, b, c, rfl⟩ := List.length_eq_three.mp switched.length_eq.symm
  simp only [calls, layers, List.zipWith_cons_cons, List.zipWith_nil_left,
    List.map_cons, List.map_nil, List.reverse_cons, List.reverse_nil,
    List.nil_append, List.cons_append, List.cons.injEq, ScopeEvent.call.injEq,
    ScopeEvent.ran.injEq, ProviderEvent.entered.injEq,
    ProviderEvent.left.injEq, Except.ok.injEq] at shown
  obtain ⟨-, -, -, ran, ⟨fromC, leftC⟩, ⟨-, leftB⟩, ⟨fromA, leftA⟩, -⟩ := shown
  have answerA : .error (.namespaceSwitch "ns_a" "Invalid argument") =
      a.answer := Outcome.answered_injective leftA
  have answerB : .ok () = b.answer := Outcome.answered_injective leftB
  have answerC : .error (.namespaceSwitch "ns_c" "Invalid argument") =
      c.answer := Outcome.answered_injective leftC
  have failures : [a, b, c].filterMap SwitchedBack.failure? =
      [("ns_a", "Invalid argument"), ("ns_c", "Invalid argument")] := by
    simp [SwitchedBack.failure?, ← answerA, ← answerB, ← answerC, ← fromA,
      ← fromC, SwitchState.detached, Error.reason]
  have failed : .error (.noSuchDevice ⟨3⟩) = inner :=
    Outcome.answered_injective ran
  rw [failures] at ends
  obtain ⟨e, restores, ended, -, trail, names⟩ := ends (by simp)
  refine ⟨named, e, by rw [plain, ended], ?_⟩
  rw [trail, List.map_append, names, ← failed]
  rfl

end InterfaceManager

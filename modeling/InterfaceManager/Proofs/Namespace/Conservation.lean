import InterfaceManager.Proofs.InMemory.Traffic
import InterfaceManager.Proofs.Namespace.Guards

/-!
# Switches are conserved

Every call of a provider is put on record with the host that it was made on.
The switches that entering has issued are those that have been passed to
leaving and those that guards still hold, at every point of every usage of
guards.  In memory the depth counts the switches that are live and those
that could not be left, so what is taken off the stack was there.
-/

namespace InterfaceManager

open InterfaceManager.Action

/-- The action put on record with the host that it was made on. -/
def Action.logged (event : Outcome α → ProviderEvent)
    (act : Action (Session η) α) :
    Action (Session (Recorded (η × ProviderEvent) η)) α := do
  let before := (← get).host.host
  act.recorded fun answer => (before, event answer)

theorem Action.outcome_logged (event : Outcome α → ProviderEvent)
    (act : Action (Session η) α)
    (s : Session (Recorded (η × ProviderEvent) η)) :
    outcome (act.logged event) s =
      let ran := outcome act ⟨s.host.host, s.journal⟩
      (ran.1, ran.2.record (s.host.calls ++ [(s.host.host, event ran.1)])) := by
  rw [logged, outcome_bind, outcome_get]
  exact outcome_recorded_eq _ act s

/-- The provider with its calls on record, each with its host. -/
def NamespaceProvider.logged (provider : NamespaceProvider η) :
    NamespaceProvider (Recorded (η × ProviderEvent) η) where
  openHandle name := (provider.openHandle name).logged (.opened name)
  enter handle := (provider.enter handle).logged (.entered handle)
  exit state := (provider.exit state).logged (.left state)

/-- The host itself as a stage. -/
def Stage.plain (provider : NamespaceProvider η) (adjust : η → ε → η) :
    Stage η ε η :=
  ⟨provider, id, adjust⟩

/-- The host with the calls of its provider on record as a stage. -/
def Stage.logged (provider : NamespaceProvider η) (adjust : η → ε → η) :
    Stage η ε (Recorded (η × ProviderEvent) η) where
  provider := provider.logged
  see := Recorded.host
  adjust r change := { r with host := adjust r.host change }

/-- Putting the calls on record changes nothing else. -/
theorem Stage.logged_mirrors (provider : NamespaceProvider η)
    (adjust : η → ε → η) :
    (logged provider adjust).Mirrors Recorded.host
      (plain provider adjust) where
  provider := by
    constructor <;> intro request s <;>
      simp only [logged, NamespaceProvider.logged, outcome_logged] <;> rfl
  see _ := rfl
  adjust _ _ := rfl

/-! ## Switches on record -/

namespace ProviderEvent

def issued? : ProviderEvent → Option SwitchState
  | entered _ (.ok state) => some state
  | _ => none

/-- The switch that a call was to end. -/
def passed? : ProviderEvent → Option SwitchState
  | left state _ => some state
  | _ => none

/-- The switch that a call was to end and could not. -/
def failed? : ProviderEvent → Option SwitchState
  | left state (.error _) => some state
  | _ => none

end ProviderEvent

section Records

/-- The switches that entering has issued. -/
def issued (calls : List (η × ProviderEvent)) : List SwitchState :=
  calls.filterMap fun call => call.2.issued?

/-- The switches that have been passed to leaving. -/
def passed (calls : List (η × ProviderEvent)) : List SwitchState :=
  calls.filterMap fun call => call.2.passed?

/-- The switches that were passed to leaving and failed. -/
def failed (calls : List (η × ProviderEvent)) : List SwitchState :=
  calls.filterMap fun call => call.2.failed?

variable (calls : List (η × ProviderEvent)) (host : η) (handle : Handle)
  (state : SwitchState)

@[simp] theorem issued_entered (answer : Outcome SwitchState) :
    issued (calls ++ [(host, .entered handle answer)]) =
      issued calls ++ answer.toOption.toList := by
  cases answer <;> simp [issued, ProviderEvent.issued?, Except.toOption]

@[simp] theorem issued_left (answer : Outcome Unit) :
    issued (calls ++ [(host, .left state answer)]) = issued calls := by
  simp [issued, ProviderEvent.issued?]

@[simp] theorem passed_entered (answer : Outcome SwitchState) :
    passed (calls ++ [(host, .entered handle answer)]) = passed calls := by
  simp [passed, ProviderEvent.passed?]

@[simp] theorem passed_left (answer : Outcome Unit) :
    passed (calls ++ [(host, .left state answer)]) =
      passed calls ++ [state] := by
  simp [passed, ProviderEvent.passed?]

@[simp] theorem failed_entered (answer : Outcome SwitchState) :
    failed (calls ++ [(host, .entered handle answer)]) = failed calls := by
  simp [failed, ProviderEvent.failed?]

@[simp] theorem failed_left_ok (done : Unit) :
    failed (calls ++ [(host, .left state (.ok done))]) = failed calls := by
  simp [failed, ProviderEvent.failed?]

@[simp] theorem failed_left_error (f : Fault) :
    failed (calls ++ [(host, .left state (.error f))]) =
      failed calls ++ [state] := by
  simp [failed, ProviderEvent.failed?]

end Records

/-- What has been issued is what has been passed on and what is live. -/
def Balanced (live : List SwitchState)
    (s : Session (Recorded (η × ProviderEvent) η)) : Prop :=
  (issued s.host.calls).Perm (passed s.host.calls ++ live)

theorem balanced_accounts (provider : NamespaceProvider η) :
    Accounts provider.logged Balanced where
  perm same balanced := balanced.trans (same.append_left _)
  note _ balanced := balanced
  enter {live s} handle balanced := by
    simp only [NamespaceProvider.logged, outcome_logged]
    rcases outcome (provider.enter handle) _ with ⟨f | state, t⟩
    · simpa [Balanced, Except.toOption] using balanced
    · have joined := List.Perm.append_right [state] balanced
      rw [List.append_assoc] at joined
      have moved := joined.trans (List.perm_append_comm.append_left _)
      simpa [Balanced, Except.toOption] using moved
  exit state balanced := by
    simp only [NamespaceProvider.logged, outcome_logged]
    simpa [Balanced] using balanced

theorem balanced_adjust (provider : NamespaceProvider η) (adjust : η → ε → η)
    {live : List SwitchState} {s : Session (Recorded (η × ProviderEvent) η)}
    (change : ε) (balanced : Balanced live s) :
    Balanced live
      ⟨(Stage.logged provider adjust).adjust s.host change, s.journal⟩ :=
  balanced

/-! ## The depth in memory -/

/-- The depth counts the switches that are live and those that could not be
left, and each switch that was left was taken off a stack that held one. -/
structure Deep (live : List SwitchState)
    (s : Session (Recorded (MemoryHost × ProviderEvent) MemoryHost)) :
    Prop where
  depth : s.host.host.namespaces.depth =
    live.length + (failed s.host.calls).length
  popped : ∀ before state, (before, .left state (.ok ())) ∈ s.host.calls →
    before.namespaces.depth ≠ 0

namespace MemoryHost

/-- A switch in that succeeds makes the stack deeper by one. -/
theorem depth_enter (handle : Handle) (s : Session MemoryHost) :
    match outcome (provider.enter handle) s with
    | (.ok _, t) => t.host.namespaces.depth = s.host.namespaces.depth + 1
    | (.error _, t) => t.host.namespaces.depth = s.host.namespaces.depth := by
  rcases unlessPending_traffic .entering (handle.name :: ·)
      (fun s => MemoryNamespaces.enter_cases s handle) s
    with ⟨e, t, failed, same⟩ | ⟨t, done, moved⟩
  · rw [provider, failed]
    exact congrArg (fun traffic => traffic.stack.length) same
  · rw [provider, done]
    exact congrArg (fun traffic => traffic.stack.length) moved

/-- A switch back that succeeds takes one off the stack. -/
theorem depth_exit (state : SwitchState) (s : Session MemoryHost) :
    match outcome (provider.exit state) s with
    | (.ok _, t) => t.host.namespaces.depth = s.host.namespaces.depth - 1
    | (.error _, t) => t.host.namespaces.depth = s.host.namespaces.depth := by
  rcases unlessPending_traffic .exiting (List.drop 1)
      (fun s => MemoryNamespaces.exit_cases s state) s
    with ⟨e, t, failed, same⟩ | ⟨t, done, moved⟩
  · rw [provider, failed]
    exact congrArg (fun traffic => traffic.stack.length) same
  · rw [provider, done]
    have shorter := congrArg (fun traffic => traffic.stack.length) moved
    simpa [traffic, MemoryNamespaces.depth] using shorter

theorem depth_adjust (h : MemoryHost) (change : Adjustment) :
    (h.adjust change).namespaces.depth = h.namespaces.depth := by
  cases change <;> rfl

end MemoryHost

theorem deep_accounts : Accounts MemoryHost.provider.logged Deep where
  perm same deep := by
    refine ⟨?_, deep.popped⟩
    rw [← same.length_eq]
    exact deep.depth
  note _ deep := ⟨deep.depth, deep.popped⟩
  enter {live s} handle deep := by
    have depth := deep.depth
    have popped := deep.popped
    have deeper := MemoryHost.depth_enter handle ⟨s.host.host, s.journal⟩
    simp only [NamespaceProvider.logged, outcome_logged]
    rcases entering : outcome (MemoryHost.provider.enter handle)
        ⟨s.host.host, s.journal⟩ with ⟨f | state, t⟩ <;>
      simp only [entering] at deeper <;> constructor
    · simp only [Session.host_record, failed_entered]
      omega
    · simpa using popped
    · simp only [Session.host_record, failed_entered, List.length_cons]
      omega
    · simpa using popped
  exit {live s} state deep := by
    have depth := deep.depth
    have popped := deep.popped
    have shallower := MemoryHost.depth_exit state ⟨s.host.host, s.journal⟩
    simp only [NamespaceProvider.logged, outcome_logged]
    -- The switch that is ended is live, so the stack holds one at least.
    rw [List.length_cons] at depth
    have some : s.host.host.namespaces.depth ≠ 0 := by omega
    rcases leaving : outcome (MemoryHost.provider.exit state)
        ⟨s.host.host, s.journal⟩ with ⟨f | ⟨⟩, t⟩ <;>
      simp only [leaving] at shallower <;> constructor
    · simp only [Session.host_record, failed_left_error, List.length_append,
        List.length_singleton]
      omega
    · simpa using popped
    · simp only [Session.host_record, failed_left_ok]
      omega
    · intro before other recorded
      rw [Session.host_record, List.mem_append, List.mem_singleton] at recorded
      rcases recorded with earlier | last
      · exact popped before other earlier
      · cases last
        exact some

theorem deep_adjust {live : List SwitchState}
    {s : Session (Recorded (MemoryHost × ProviderEvent) MemoryHost)}
    (change : MemoryHost.Adjustment) (deep : Deep live s) :
    Deep live
      ⟨(Stage.logged MemoryHost.provider MemoryHost.adjust).adjust s.host
        change, s.journal⟩ where
  depth := (MemoryHost.depth_adjust s.host.host change).trans deep.depth
  popped := deep.popped

/-! ## Every order of guards -/

/-- For every usage of guards, at every point of it, what entering has issued
has been passed to leaving or is held by a guard that is alive: each switch
is passed on at most once, and as often as there are fewer live ones.  In
memory, started at depth zero, the depth counts the switches that are live
and those that could not be left, and none is taken off an empty stack.
Dropping a guard does to the host what leaving its scope does. -/
theorem switches_conserved :
    (∀ {η ε α : Type} (provider : NamespaceProvider η) (adjust : η → ε → η)
      (usage : Usage η ε α) (host : η),
      let stage := Stage.logged provider adjust
      let start := Session.start ⟨⟨host, []⟩, []⟩
      let ended := outcome (usage.perform stage) start
      outcome (usage.perform (Stage.plain provider adjust))
          (Session.start ⟨host, []⟩) =
        (ended.1, ended.2.onto (Guarded.onto Recorded.host)) ∧
      Usage.Reaches stage [] usage start [] (.finish ended.1) ended.2 ∧
      ∀ within point t, Usage.Reaches stage [] usage start within point t →
        let live := held t.host.guards ++ within.flatMap Scope.switches
        let calls := t.host.host.calls
        (issued calls).Perm (passed calls ++ live) ∧
        (passed calls).length + live.length = (issued calls).length) ∧
    (∀ {α : Type} (usage : Usage MemoryHost MemoryHost.Adjustment α)
      (host : MemoryHost), host.namespaces.depth = 0 →
      ∀ within point t,
        Usage.Reaches (Stage.logged MemoryHost.provider MemoryHost.adjust) []
          usage (Session.start ⟨⟨host, []⟩, []⟩) within point t →
        let live := held t.host.guards ++ within.flatMap Scope.switches
        let calls := t.host.host.calls
        t.host.host.host.namespaces.depth =
          live.length + (failed calls).length ∧
        ∀ before state, (before, .left state (.ok ())) ∈ calls →
          before.namespaces.depth ≠ 0) ∧
    ∀ {η : Type} (provider : NamespaceProvider η) (scope : Scope)
      (s : Session η),
      (outcome (scope.drop provider) s).2 =
        (outcome (scope.exit provider) s).2 := by
  refine ⟨?_, ?_, Scope.drop_eq_exit⟩
  · intro η ε α provider adjust usage host stage start ended
    refine ⟨?_, Usage.reaches_end stage usage [] start, ?_⟩
    · exact usage.perform_mirrors (Stage.logged_mirrors provider adjust) start
    · intro within point t reached live calls
      have begins : Guarding Balanced [] start := ⟨List.nodup_nil, .nil⟩
      have kept : Guarding Balanced within t :=
        reached.guarding (J := Balanced) (balanced_accounts provider)
          (balanced_adjust provider adjust) begins
      have balanced : (issued calls).Perm (passed calls ++ live) := kept.holds
      exact ⟨balanced, (balanced.length_eq.trans List.length_append).symm⟩
  · intro α usage host shallow within point t reached
    have begins : Guarding Deep [] (Session.start ⟨⟨host, []⟩, []⟩) :=
      ⟨List.nodup_nil, shallow, by simp [Session.start, Session.unguarded]⟩
    have kept : Guarding Deep within t :=
      reached.guarding deep_accounts deep_adjust begins
    exact ⟨kept.holds.depth, kept.holds.popped⟩

/-- A host whose namespace `stuck` cannot be left. -/
def stuckHost : MemoryHost :=
  .ofParts { MemoryNamespaces.ofNames [] with failingExit := ["stuck"] }
    ⟨[], [], true⟩ .current

/-- Two guards are entered and the earlier one is left first.  Then a run
puts another scope in the place of the later one and panics. -/
def disorder : Usage MemoryHost MemoryHost.Adjustment Unit :=
  .enter "first" ⟨0, "free"⟩ (some ⟨"free", none⟩) "enter" fun _ =>
  .enter "second" ⟨1, "stuck"⟩ (some ⟨"stuck", none⟩) "enter" fun _ =>
  .exit "first" fun _ =>
  .run ⟨2, "other"⟩ (some ⟨"other", none⟩) "run"
    (.enter "second" ⟨0, "free"⟩ (some ⟨"free", none⟩) "replace" fun _ =>
      .finish (.error (.panic "lost")))
    fun answer => .finish answer

/-- How it ends, and where. -/
def disorderEnded :=
  outcome
    (disorder.perform (Stage.logged MemoryHost.provider MemoryHost.adjust))
    (Session.start ⟨⟨stuckHost, []⟩, []⟩)

theorem conserved_in_disorder :
    stuckHost.namespaces.depth = 0 ∧ disorderEnded.1.isOk = false ∧
    (held disorderEnded.2.host.guards).length = 1 ∧
    (passed disorderEnded.2.host.host.calls).length = 3 ∧
    (failed disorderEnded.2.host.host.calls).length = 1 ∧
    (issued disorderEnded.2.host.host.calls).Perm
      (passed disorderEnded.2.host.host.calls ++
        held disorderEnded.2.host.guards) ∧
    disorderEnded.2.host.host.host.namespaces.depth =
      (held disorderEnded.2.host.guards).length +
        (failed disorderEnded.2.host.host.calls).length := by
  obtain ⟨every, inMemory, -⟩ := switches_conserved
  have ends := Usage.reaches_end
    (Stage.logged MemoryHost.provider MemoryHost.adjust) disorder []
    (Session.start ⟨⟨stuckHost, []⟩, []⟩)
  rw [← disorderEnded] at ends
  have balanced := ((every MemoryHost.provider MemoryHost.adjust disorder
    stuckHost).2.2 _ _ _ ends).1
  have depth := (inMemory disorder stuckHost rfl _ _ _ ends).1
  rw [List.flatMap_nil, List.append_nil] at balanced depth
  exact ⟨rfl, by decide +kernel, by decide +kernel, by decide +kernel,
    by decide +kernel, balanced, depth⟩

end InterfaceManager

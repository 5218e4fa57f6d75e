import InterfaceManager.InMemory.Backend
import InterfaceManager.Proofs.Remarks
import InterfaceManager.System.Backend

/-!
# What is expected of backends

A manager works with any backend.  Two expectations are named here: that
every call answers, with a value or an error but never with a panic, and
that the calls make no remarks about devices.  The backend in memory and the
one for a machine meet both.
-/

namespace InterfaceManager

/-- Every call of the provider and of the interfaces has a property. -/
structure Backend.Every
    (P : ∀ {α : Type}, Action (Session η) α → Prop)
    (backend : Backend η ε) : Prop where
  openHandle : ∀ name, P (backend.provider.openHandle name)
  enter : ∀ handle, P (backend.provider.enter handle)
  exit : ∀ state, P (backend.provider.exit state)
  resolveName : ∀ ifindex, P (backend.links.resolveName ifindex)
  linkState : ∀ devName, P (backend.links.linkState devName)
  setUp : ∀ devName up, P (backend.links.setUp devName up)
  addAddress : ∀ devName address length,
    P (backend.links.addAddress devName address length)
  addRoute : ∀ devName destination length gateway,
    P (backend.links.addRoute devName destination length gateway)

namespace Backend

/-- No call ends with a panic. -/
abbrev Answers (backend : Backend η ε) : Prop :=
  backend.Every fun act => act.Answers

/-- No call makes remarks. -/
abbrev Discreet (backend : Backend η ε) : Prop :=
  backend.Every fun act => act.Discreet

/-- Every call answers and makes no remarks. -/
abbrev Calm (backend : Backend η ε) : Prop :=
  backend.Every fun act => act.Calm

theorem Every.mono
    {P Q : ∀ {α : Type}, Action (Session η) α → Prop}
    (weaker : ∀ {α : Type} (act : Action (Session η) α), P act → Q act)
    {backend : Backend η ε} (every : backend.Every P) : backend.Every Q where
  openHandle name := weaker _ (every.openHandle name)
  enter handle := weaker _ (every.enter handle)
  exit state := weaker _ (every.exit state)
  resolveName ifindex := weaker _ (every.resolveName ifindex)
  linkState devName := weaker _ (every.linkState devName)
  setUp devName up := weaker _ (every.setUp devName up)
  addAddress devName address length :=
    weaker _ (every.addAddress devName address length)
  addRoute devName destination length gateway :=
    weaker _ (every.addRoute devName destination length gateway)

/-- Every call has a family of properties if it has each of them. -/
theorem Every.all {ι : Type} {backend : Backend η ε}
    {P : ι → ∀ {α : Type}, Action (Session η) α → Prop}
    (every : ∀ i, backend.Every (P i)) :
    backend.Every fun act => ∀ i, P i act where
  openHandle name i := (every i).openHandle name
  enter handle i := (every i).enter handle
  exit state i := (every i).exit state
  resolveName ifindex i := (every i).resolveName ifindex
  linkState devName i := (every i).linkState devName
  setUp devName up i := (every i).setUp devName up
  addAddress devName address length i :=
    (every i).addAddress devName address length
  addRoute devName destination length gateway i :=
    (every i).addRoute devName destination length gateway

theorem Calm.answers {backend : Backend η ε} (calm : backend.Calm) :
    backend.Answers :=
  Every.mono (fun _ h => h.answers) calm

theorem Calm.discreet {backend : Backend η ε} (calm : backend.Calm) :
    backend.Discreet :=
  Every.mono (fun _ h => h.discreet) calm

end Backend

open InterfaceManager.Action

/-! ## The backend in memory -/

namespace MemoryNamespaces

theorem openHandle_calm (name : String) : (openHandle name).Calm := by
  refine Calm.get.bind fun s => ?_
  split
  · refine Calm.get.bind fun s => ?_
    refine Calm.bind (Calm.modify fun _ => rfl) fun _ => ?_
    exact Calm.bind (Calm.note rfl) fun _ => Calm.pure _
  · exact Calm.bind (Calm.note rfl) fun _ => Calm.fail _

theorem enter_calm (handle : Handle) : (enter handle).Calm := by
  refine Calm.bind (Calm.modify fun _ => rfl) fun _ => ?_
  refine Calm.get.bind fun s => ?_
  split
  · exact Calm.fail _
  · refine Calm.bind (Calm.modify fun _ => rfl) fun _ => ?_
    refine Calm.get.bind fun s => ?_
    exact Calm.bind (Calm.note rfl) fun _ => Calm.pure _

theorem exit_calm (state : SwitchState) : (exit state).Calm := by
  refine Calm.bind (Calm.modify fun _ => rfl) fun _ => ?_
  refine Calm.get.bind fun s => ?_
  split
  · exact Calm.fail _
  · refine Calm.bind (Calm.modify fun _ => rfl) fun _ => ?_
    exact Calm.get.bind fun s => Calm.note rfl

end MemoryNamespaces

namespace MemoryLinks

theorem resolveName_calm (netns : String) (ifindex : IfIndex) :
    (resolveName netns ifindex).Calm := by
  refine Calm.bind (Calm.modify fun _ => rfl) fun _ => ?_
  refine Calm.get.bind fun s => ?_
  split
  · exact Calm.pure _
  · exact Calm.fail _

theorem linkState_calm (netns devName : String) :
    (linkState netns devName).Calm := by
  refine Calm.bind (Calm.modify fun _ => rfl) fun _ => ?_
  refine Calm.get.bind fun s => ?_
  split
  · exact Calm.pure _
  · exact Calm.fail _

theorem change_calm (operation netns devName : String)
    (request : LinkRequest) (f : MemoryLink → MemoryLink) :
    (change operation netns devName request f).Calm := by
  refine Calm.bind (Calm.modify fun _ => rfl) fun _ => ?_
  refine Calm.get.bind fun s => ?_
  split
  · refine Calm.get.bind fun s => ?_
    split
    · exact Calm.bind (Calm.modify fun _ => rfl) fun _ => Calm.note rfl
    · exact Calm.fail _
  · exact Calm.fail _

end MemoryLinks

namespace MemoryHost

theorem unlessPending_calm (call : ProviderCall)
    {act : Action (Session MemoryNamespaces) α} (calm : act.Calm) :
    (unlessPending call act).Calm := by
  refine Calm.get.bind fun s => ?_
  split
  · exact Calm.bind (Calm.modify fun _ => rfl) fun _ => Calm.fail _
  · exact Calm.focus (fun _ => rfl) (fun _ _ => rfl) calm

theorem onLinks_calm (act : String → Action (Session MemoryLinks) α)
    (calm : ∀ netns, (act netns).Calm) : (onLinks act).Calm :=
  Calm.get.bind fun _ =>
    Calm.focus (fun _ => rfl) (fun _ _ => rfl) (calm _)

theorem backend_calm : MemoryHost.backend.Calm where
  openHandle name := unlessPending_calm _ (MemoryNamespaces.openHandle_calm name)
  enter handle := unlessPending_calm _ (MemoryNamespaces.enter_calm handle)
  exit state := unlessPending_calm _ (MemoryNamespaces.exit_calm state)
  resolveName ifindex :=
    onLinks_calm (fun netns => MemoryLinks.resolveName netns ifindex)
      fun netns => MemoryLinks.resolveName_calm netns ifindex
  linkState devName :=
    onLinks_calm (fun netns => MemoryLinks.linkState netns devName)
      fun netns => MemoryLinks.linkState_calm netns devName
  setUp devName up :=
    onLinks_calm (fun netns => (MemoryLinks.control netns).setUp devName up)
      fun netns => MemoryLinks.change_calm "set_up" netns devName _ _
  addAddress devName address length :=
    onLinks_calm
      (fun netns =>
        (MemoryLinks.control netns).addAddress devName address length)
      fun netns => MemoryLinks.change_calm "add_address" netns devName _ _
  addRoute devName destination length gateway :=
    onLinks_calm
      (fun netns => (MemoryLinks.control netns).addRoute devName destination
        length gateway)
      fun netns => MemoryLinks.change_calm "add_route" netns devName _ _

end MemoryHost

/-! ## The backend of a machine -/

namespace Machine

variable (config : NamespaceConfig)

theorem openHandle_calm (name : String) : (openHandle config name).Calm := by
  unfold openHandle
  split
  · exact Calm.fail _
  · refine Calm.bind (Calm.note rfl) fun _ => Calm.get.bind fun s => ?_
    split
    · exact Calm.pure _
    · exact Calm.fail _

theorem saveSignals_calm : (saveSignals config).Calm := by
  unfold saveSignals
  split
  · refine Calm.get.bind fun s => ?_
    exact Calm.bind (Calm.modify fun _ => rfl) fun _ => Calm.pure _
  · exact Calm.pure _

theorem returnSignals_calm (saved : Option SignalSet) :
    (returnSignals saved).Calm := by
  cases saved with
  | none => exact Calm.pure _
  | some signals => exact Calm.modify fun _ => rfl

theorem enter_calm (handle : Handle) : (enter config handle).Calm := by
  unfold enter
  split
  · exact Calm.fail _
  · refine Calm.get.bind fun s => ?_
    split
    · exact Calm.fail _
    · refine (saveSignals_calm config).bind fun saved => ?_
      refine Calm.get.bind fun s => ?_
      split
      · exact (returnSignals_calm saved).bind fun _ => Calm.fail _
      · refine Calm.bind (Calm.modify fun _ => rfl) fun _ => ?_
        exact Calm.bind (Calm.note rfl) fun _ => Calm.pure _

theorem leave_calm (state : SwitchState) : (leave state).Calm := by
  unfold leave
  split
  · exact Calm.fail _
  · refine Calm.get.bind fun s => ?_
    split
    · exact Calm.fail _
    · refine Calm.bind (Calm.modify fun _ => rfl) fun _ => ?_
      exact (returnSignals_calm _).bind fun _ => Calm.note rfl

theorem resolveName_calm (ifindex : IfIndex) : (resolveName ifindex).Calm := by
  refine Calm.get.bind fun s => ?_
  dsimp only
  split
  · exact Calm.pure _
  · exact Calm.bind (Calm.note rfl) fun _ => Calm.fail _

theorem answer_calm (operation devName : String) (result : Except Errno α) :
    (answer operation devName result).Calm := by
  cases result with
  | ok value => exact Calm.pure _
  | error e => exact Calm.bind (Calm.note rfl) fun _ => Calm.fail _

theorem linkState_calm (devName : String) : (linkState devName).Calm := by
  refine Calm.get.bind fun s => ?_
  dsimp only
  split
  · exact Calm.fail _
  · refine Calm.bind ?_ fun name => ?_
    · cases queryName devName with
      | ok name => exact Calm.pure _
      | error e => exact Calm.fail _
    · refine (answer_calm _ _ _).bind fun flags => ?_
      exact (answer_calm _ _ _).bind fun mtu => Calm.pure _

theorem refuse_calm (operation devName : String) :
    (refuse operation devName).Calm :=
  Calm.bind (Calm.note rfl) fun _ => Calm.fail _

theorem backend_calm : (Machine.backend config).Calm where
  openHandle := openHandle_calm config
  enter := enter_calm config
  exit := leave_calm
  resolveName := resolveName_calm
  linkState := linkState_calm
  setUp devName _ := refuse_calm _ devName
  addAddress devName _ _ := refuse_calm _ devName
  addRoute devName _ _ _ := refuse_calm _ devName

end Machine

end InterfaceManager

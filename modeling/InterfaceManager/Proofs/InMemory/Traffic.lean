import InterfaceManager.Proofs.Backend
import InterfaceManager.Proofs.Namespace.Scope

/-!
# Where calls on interfaces are made

The interfaces in memory keep the namespace of every call made on them,
which depends on the namespaces that have been entered and not left.  Once
the calls of a backend are on record, it can be told from them alone what a
run inside a namespace does: which namespaces it leaves behind on the stack,
and in which one its calls on interfaces have been made.
-/

namespace InterfaceManager

open InterfaceManager.Action

/-- The request that a call on interfaces makes, whatever it answers. -/
def LinkEvent.request : LinkEvent → LinkRequest
  | resolved ifindex _ => .resolveName ifindex
  | queried devName _ => .linkState devName
  | upDown devName up _ => .setUp devName up
  | addressAdded devName address length _ =>
    .addAddress devName ⟨address, length⟩
  | routeAdded devName destination length gateway _ =>
    .addRoute devName ⟨destination, length, gateway⟩

namespace BackendEvent

/-- The request of a call on interfaces. -/
def request? : BackendEvent → Option LinkRequest
  | link event => some event.request
  | provider _ => none

/-- The namespace that a call failed to leave. -/
def stranded? : BackendEvent → Option String
  | provider (.left state (.error _)) => some state.target
  | _ => none

/-- The requests among some calls, in order. -/
def requests (events : List BackendEvent) : List LinkRequest :=
  events.filterMap request?

/-- The namespaces that could not be left, in order. -/
def stranded (events : List BackendEvent) : List String :=
  events.filterMap stranded?

@[simp] theorem requests_nil : requests [] = [] := rfl

@[simp] theorem stranded_nil : stranded [] = [] := rfl

@[simp] theorem requests_provider (event : ProviderEvent)
    (events : List BackendEvent) :
    requests (provider event :: events) = requests events := rfl

@[simp] theorem stranded_entered (handle : Handle)
    (answer : Outcome SwitchState) (events : List BackendEvent) :
    stranded (provider (.entered handle answer) :: events) =
      stranded events := rfl

@[simp] theorem stranded_left_ok (state : SwitchState)
    (events : List BackendEvent) :
    stranded (provider (.left state (.ok ())) :: events) =
      stranded events := rfl

@[simp] theorem stranded_left_error (state : SwitchState) (f : Fault)
    (events : List BackendEvent) :
    stranded (provider (.left state (.error f)) :: events) =
      state.target :: stranded events := rfl

@[simp] theorem requests_append (first second : List BackendEvent) :
    requests (first ++ second) = requests first ++ requests second :=
  List.filterMap_append

@[simp] theorem stranded_append (first second : List BackendEvent) :
    stranded (first ++ second) = stranded first ++ stranded second :=
  List.filterMap_append

end BackendEvent

open BackendEvent (requests stranded)

/-! ## Traffic -/

/-- What decides in which namespace the calls on interfaces are made, and the
calls made so far. -/
@[ext] structure Traffic where
  probe : NamespaceProbe
  /-- The namespaces entered and not left, innermost first. -/
  stack : List String
  calls : List LinkCall

namespace Traffic

/-- The namespace in which work for `netns` is done.  The default namespace
is wherever the thread is. -/
def place (tr : Traffic) (netns : String) : String :=
  if netns = "" then tr.stack.head?.getD "" else netns

/-- The traffic after work for `netns` that has put `new` on record. -/
def after (tr : Traffic) (netns : String) (new : List BackendEvent) :
    Traffic where
  probe := tr.probe
  stack := (stranded new).reverse ++ tr.stack
  calls := tr.calls ++
    (requests new).map fun request => ⟨tr.place netns, request⟩

@[simp] theorem after_nil (tr : Traffic) (netns : String) :
    tr.after netns [] = tr := by
  simp [after]

/-- In the default namespace the place stays as long as every other
namespace is left. -/
theorem after_append (tr : Traffic) {netns : String}
    {first : List BackendEvent} (unswitched : netns = "" → stranded first = [])
    (second : List BackendEvent) :
    tr.after netns (first ++ second) =
      (tr.after netns first).after netns second := by
  have same : (tr.after netns first).place netns = tr.place netns := by
    by_cases default : netns = ""
    · simp [place, after, unswitched default]
    · simp [place, default]
  ext1
  · rfl
  · simp [after]
  · rw [after, after, same]
    simp [after]

end Traffic

namespace MemoryHost

def traffic (h : MemoryHost) : Traffic :=
  ⟨h.probe, h.namespaces.stack, h.links.calls⟩

theorem callNamespace_eq {h : MemoryHost} (current : h.probe = .current) :
    h.callNamespace = h.traffic.place "" := by
  simp [callNamespace, current, MemoryNamespaces.current, traffic,
    Traffic.place]

/-- A host in memory with all calls of its backend on record. -/
abbrev Traced := Recorded BackendEvent MemoryHost

/-- From `h` to `k` there has been work for `netns`: its calls on interfaces
have been made there, and the namespaces that it has left behind are those it
could not leave. -/
def Worked (netns : String) (h k : Traced) : Prop :=
  ∃ new, k.calls = h.calls ++ new ∧
    k.host.traffic = h.host.traffic.after netns new ∧
    (netns = "" → stranded new = [])

namespace Worked

variable {netns : String} {h k l : Traced}

theorem refl (netns : String) (h : Traced) : Worked netns h h :=
  ⟨[], by simp⟩

theorem trans (first : Worked netns h k) (second : Worked netns k l) :
    Worked netns h l := by
  obtain ⟨new, calls, traffic, unswitched⟩ := first
  obtain ⟨new', calls', traffic', unswitched'⟩ := second
  refine ⟨new ++ new', ?_, ?_, ?_⟩
  · rw [calls', calls, List.append_assoc]
  · rw [traffic', traffic, Traffic.after_append _ unswitched]
  · intro default
    rw [BackendEvent.stranded_append, unswitched default, unswitched' default]
    rfl

theorem probe_eq (worked : Worked netns h k) :
    k.host.probe = h.host.probe := by
  obtain ⟨new, -, traffic, -⟩ := worked
  exact congrArg Traffic.probe traffic

/-- A call that makes no request and leaves no namespace may be made for any
namespace. -/
theorem of_traffic_eq {event : BackendEvent}
    (calls : k.calls = h.calls ++ [event])
    (silent : event.request? = none) (left : event.stranded? = none)
    (traffic : k.host.traffic = h.host.traffic) (netns : String) :
    Worked netns h k := by
  have none_requested : requests [event] = [] := by simp [requests, silent]
  have none_stranded : stranded [event] = [] := by simp [stranded, left]
  refine ⟨[event], calls, ?_, fun _ => none_stranded⟩
  rw [traffic]
  simp [Traffic.after, none_requested, none_stranded]

/-- What happens to the host from outside is no work. -/
theorem of_adjust {host : MemoryHost}
    (traffic : host.traffic = h.host.traffic) :
    Worked netns h { h with host := host } := by
  refine ⟨[], by simp, ?_, fun _ => rfl⟩
  rw [traffic, Traffic.after_nil]

/-- Work is done by whatever adds to the work done. -/
theorem keeps {act : Action (Session Traced) α}
    (works : ∀ s : Session Traced, s.host.host.probe = .current →
      Worked netns s.host (outcome act s).2.host)
    (current : h.host.probe = .current) :
    act.Keeps fun s => Worked netns h s.host := by
  intro s hs
  exact hs.trans (works s (hs.probe_eq.trans current))

end Worked

theorem note_keeps_worked (netns : String) (h : Traced) (n : Notice) :
    (Session.note n).Keeps fun s => Worked netns h s.host :=
  .modify fun _ hs => hs

end MemoryHost

/-! ## Calls on interfaces -/

namespace MemoryLinks

variable (netns : String) (s : Session MemoryLinks)

theorem calls_resolveName (ifindex : IfIndex) :
    (outcome (resolveName netns ifindex) s).2.host.calls =
      s.host.calls ++ [⟨netns, .resolveName ifindex⟩] := by
  simp only [resolveName, outcome_bind, outcome_modify, outcome_get]
  split <;> rfl

theorem calls_linkState (devName : String) :
    (outcome (linkState netns devName) s).2.host.calls =
      s.host.calls ++ [⟨netns, .linkState devName⟩] := by
  simp only [linkState, outcome_bind, outcome_modify, outcome_get]
  split <;> rfl

/-- A change is recorded also if it is refused. -/
theorem calls_change (operation devName : String) (request : LinkRequest)
    (f : MemoryLink → MemoryLink) :
    (outcome (change operation netns devName request f) s).2.host.calls =
      s.host.calls ++ [⟨netns, request⟩] := by
  simp only [change, outcome_bind, outcome_modify, outcome_get]
  split
  · simp only [outcome_bind, outcome_get]
    split <;> rfl
  · rfl

end MemoryLinks

namespace MemoryHost

/-- A notice before it makes no difference to a call. -/
theorem noted_keeps_worked {netns : String} {h : Traced} (n : Notice)
    {act : Action (Session Traced) α}
    (hact : act.Keeps fun s => Worked netns h s.host) :
    Keeps (fun s => Worked netns h s.host) (do
      Session.note n
      act) :=
  (note_keeps_worked netns h n).bind fun _ => hact

section Links

variable {h : Traced} (current : h.host.probe = .current)

include current

/-- A call on interfaces is made where the thread is. -/
theorem onLinks_keeps_worked (event : Outcome α → LinkEvent)
    {act : String → Action (Session MemoryLinks) α} {request : LinkRequest}
    (calls : ∀ netns s, (outcome (act netns) s).2.host.calls =
      s.host.calls ++ [⟨netns, request⟩])
    (requested : ∀ answer, (event answer).request = request) :
    ((onLinks act).recorded fun answer =>
      BackendEvent.link (event answer)).Keeps
        fun s => Worked "" h s.host := by
  refine Worked.keeps (fun s hs => ?_) current
  let plain : Session MemoryHost := ⟨s.host.host, s.journal⟩
  let answer := (outcome (onLinks act) plain).1
  have traffic : (outcome (onLinks act) plain).2.host.traffic =
      { s.host.host.traffic with
        calls := s.host.host.links.calls ++
          [⟨s.host.host.callNamespace, request⟩] } := by
    simp [onLinks, outcome_bind, MemoryHost.traffic, calls, plain]
  have one_request : requests [.link (event answer)] = [request] := by
    simp [requests, BackendEvent.request?, requested]
  refine ⟨[.link (event answer)], ?_, ?_, fun _ => rfl⟩
  · rw [outcome_recorded_eq]
    rfl
  · rw [outcome_recorded_eq]
    refine traffic.trans ?_
    rw [callNamespace_eq hs, Traffic.after, one_request]
    rfl

theorem resolveName_keeps_worked (ifindex : IfIndex) :
    (backend.recorded.links.resolveName ifindex).Keeps
      fun s => Worked "" h s.host :=
  onLinks_keeps_worked current (.resolved ifindex)
    (fun netns s => MemoryLinks.calls_resolveName netns s ifindex)
    fun _ => rfl

theorem linkState_keeps_worked (devName : String) :
    (backend.recorded.links.linkState devName).Keeps
      fun s => Worked "" h s.host :=
  onLinks_keeps_worked current (.queried devName)
    (fun netns s => MemoryLinks.calls_linkState netns s devName)
    fun _ => rfl

theorem setUp_keeps_worked (devName : String) (up : Bool) :
    (backend.recorded.links.setUp devName up).Keeps
      fun s => Worked "" h s.host :=
  onLinks_keeps_worked current (.upDown devName up)
    (fun netns s => MemoryLinks.calls_change netns s _ devName _ _)
    fun _ => rfl

theorem addAddress_keeps_worked (devName : String) (address : Address)
    (length : UInt8) :
    (backend.recorded.links.addAddress devName address length).Keeps
      fun s => Worked "" h s.host :=
  onLinks_keeps_worked current (.addressAdded devName address length)
    (fun netns s => MemoryLinks.calls_change netns s _ devName _ _)
    fun _ => rfl

theorem addRoute_keeps_worked (devName : String) (destination : Address)
    (length : UInt8) (gateway : Option Address) :
    (backend.recorded.links.addRoute devName destination length
      gateway).Keeps fun s => Worked "" h s.host :=
  onLinks_keeps_worked current
    (.routeAdded devName destination length gateway)
    (fun netns s => MemoryLinks.calls_change netns s _ devName _ _)
    fun _ => rfl

end Links

end MemoryHost

/-! ## Calls of the provider -/

namespace MemoryNamespaces

variable (s : Session MemoryNamespaces)

theorem openHandle_cases (name : String) :
    (∃ e t, outcome (openHandle name) s = (.error (.error e), t) ∧
      t.host.stack = s.host.stack) ∨
    ∃ t, outcome (openHandle name) s = (.ok (.detached name), t) ∧
      t.host.stack = s.host.stack := by
  by_cases known : name ∈ s.host.known
  · have opened : outcome (openHandle name) s =
        (.ok (.detached name), Session.noting
          { s with host := { s.host with opens := s.host.opens + 1 } }
          (.memoryNamespaceOpened name (s.host.opens + 1))) := by
      simp [openHandle, outcome_bind, outcome_map, Except.map, known]
    exact Or.inr ⟨_, opened, rfl⟩
  · have missing : outcome (openHandle name) s =
        (.error (.error (.namespaceOpen name "No such file or directory")),
          s.noting (.memoryNamespaceMissing name)) := by
      simp [openHandle, outcome_bind, known]
    exact Or.inl ⟨_, _, missing, rfl⟩

theorem enter_cases (handle : Handle) :
    (∃ e t, outcome (enter handle) s = (.error (.error e), t) ∧
      t.host.stack = s.host.stack) ∨
    ∃ t, outcome (enter handle) s = (.ok (.detached handle.name), t) ∧
      t.host.stack = handle.name :: s.host.stack := by
  let tried := { s.host with enters := s.host.enters + 1 }
  by_cases failing : handle.name ∈ s.host.failingEnter
  · have failed : outcome (enter handle) s =
        (.error (.error (.namespaceSwitch handle.name
          "Operation not permitted")), { s with host := tried }) := by
      simp [enter, outcome_bind, failing, tried]
    exact Or.inl ⟨_, _, failed, rfl⟩
  · let inside := { tried with stack := handle.name :: s.host.stack }
    have entered : outcome (enter handle) s =
        (.ok (.detached handle.name), Session.noting
          { s with host := inside }
          (.memoryNamespaceEntered handle.name inside.depth)) := by
      simp [enter, outcome_bind, outcome_map, Except.map, failing, tried,
        inside]
    exact Or.inr ⟨_, entered, rfl⟩

theorem exit_cases (state : SwitchState) :
    (∃ e t, outcome (exit state) s = (.error (.error e), t) ∧
      t.host.stack = s.host.stack) ∨
    ∃ t, outcome (exit state) s = (.ok (), t) ∧
      t.host.stack = s.host.stack.drop 1 := by
  let tried := { s.host with exits := s.host.exits + 1 }
  by_cases failing : state.target ∈ s.host.failingExit
  · have failed : outcome (exit state) s =
        (.error (.error (.namespaceSwitch state.target "Invalid argument")),
          { s with host := tried }) := by
      simp [exit, outcome_bind, failing, tried]
    exact Or.inl ⟨_, _, failed, rfl⟩
  · let outside := { tried with stack := s.host.stack.drop 1 }
    have left : outcome (exit state) s =
        (.ok (), Session.noting { s with host := outside }
          (.memoryNamespaceLeft state.target outside.depth)) := by
      simp [exit, outcome_bind, failing, tried, outside]
    exact Or.inr ⟨_, left, rfl⟩

end MemoryNamespaces

namespace MemoryHost

/-- A call of the provider fails without effect on the traffic, or it
succeeds and leaves the stack as the namespaces leave it. -/
theorem unlessPending_traffic (call : ProviderCall)
    (stack : List String → List String)
    {act : Action (Session MemoryNamespaces) α} {value : α}
    (cases : ∀ s, (∃ e t, outcome act s = (.error (.error e), t) ∧
        t.host.stack = s.host.stack) ∨
      ∃ t, outcome act s = (.ok value, t) ∧
        t.host.stack = stack s.host.stack)
    (s : Session MemoryHost) :
    (∃ e t, outcome (unlessPending call act) s = (.error (.error e), t) ∧
      t.host.traffic = s.host.traffic) ∨
    ∃ t, outcome (unlessPending call act) s = (.ok value, t) ∧
      t.host.traffic = { s.host.traffic with
        stack := stack s.host.traffic.stack } := by
  rcases pending : s.host.pending.get call with _ | e
  · have carried : outcome (unlessPending call act) s =
        outcome (onNamespaces act) s := by
      simp [unlessPending, outcome_bind, pending]
    rw [carried, onNamespaces, outcome_focus]
    rcases cases ⟨s.host.namespaces, s.journal⟩
      with ⟨e, t, failed, same⟩ | ⟨t, succeeded, moved⟩
    · rw [failed]
      refine Or.inl ⟨e, _, rfl, ?_⟩
      exact congrArg (Traffic.mk _ · _) same
    · rw [succeeded]
      refine Or.inr ⟨_, rfl, ?_⟩
      exact congrArg (Traffic.mk _ · _) moved
  · have refused : outcome (unlessPending call act) s =
        (.error (.error e), { s with host :=
          { s.host with pending := s.host.pending.set none call } }) := by
      simp [unlessPending, outcome_bind, pending]
    exact Or.inl ⟨e, _, refused, rfl⟩

/-- The same of a call that is put on record. -/
theorem unlessPending_cases (call : ProviderCall)
    (stack : List String → List String)
    {act : Action (Session MemoryNamespaces) α} {value : α}
    (cases : ∀ s, (∃ e t, outcome act s = (.error (.error e), t) ∧
        t.host.stack = s.host.stack) ∨
      ∃ t, outcome act s = (.ok value, t) ∧
        t.host.stack = stack s.host.stack)
    (event : Outcome α → BackendEvent) (s : Session Traced) :
    (∃ e t, outcome ((unlessPending call act).recorded event) s =
        (.error (.error e), t) ∧
      t.host.calls = s.host.calls ++ [event (.error (.error e))] ∧
      t.host.host.traffic = s.host.host.traffic) ∨
    ∃ t, outcome ((unlessPending call act).recorded event) s =
        (.ok value, t) ∧
      t.host.calls = s.host.calls ++ [event (.ok value)] ∧
      t.host.host.traffic = { s.host.host.traffic with
        stack := stack s.host.host.traffic.stack } := by
  rw [outcome_recorded_eq]
  rcases unlessPending_traffic call stack cases ⟨s.host.host, s.journal⟩
    with ⟨e, t, failed, same⟩ | ⟨t, succeeded, moved⟩
  · rw [failed]
    exact Or.inl ⟨e, _, rfl, rfl, same⟩
  · rw [succeeded]
    exact Or.inr ⟨_, rfl, rfl, moved⟩

/-- Leaving takes one namespace off the stack, or it fails. -/
theorem exit_recorded (state : SwitchState) (s : Session Traced) :
    ∃ answer t, outcome (backend.recorded.provider.exit state) s =
        (answer, t) ∧
      t.host.calls = s.host.calls ++ [.provider (.left state answer)] ∧
      ((∃ f, answer = .error f) ∧
          t.host.host.traffic = s.host.host.traffic ∨
        answer = .ok () ∧ t.host.host.traffic =
          { s.host.host.traffic with
            stack := s.host.host.traffic.stack.drop 1 }) := by
  rcases unlessPending_cases .exiting (List.drop 1)
      (fun s => MemoryNamespaces.exit_cases s state)
      (fun answer => .provider (.left state answer)) s
    with ⟨e, t, leaving, calls, traffic⟩ | ⟨t, leaving, calls, traffic⟩
  · exact ⟨_, t, leaving, calls, Or.inl ⟨⟨_, rfl⟩, traffic⟩⟩
  · exact ⟨_, t, leaving, calls, Or.inr ⟨rfl, traffic⟩⟩

/-- A handle is opened under the name that is asked for, or not at all. -/
theorem openHandle_recorded (name : String) (s : Session Traced) :
    ∃ answer t, outcome (backend.recorded.provider.openHandle name) s =
        (answer, t) ∧
      t.host.calls = s.host.calls ++ [.provider (.opened name answer)] ∧
      t.host.host.traffic = s.host.host.traffic ∧
      ∀ handle, answer = .ok handle → handle.name = name := by
  rcases unlessPending_cases .opening id
      (fun s => MemoryNamespaces.openHandle_cases s name)
      (fun answer => .provider (.opened name answer)) s
    with ⟨e, t, opening, calls, traffic⟩ | ⟨t, opening, calls, traffic⟩
  · refine ⟨_, t, opening, calls, traffic, fun handle opened => ?_⟩
    cases opened
  · refine ⟨_, t, opening, calls, traffic, fun handle opened => ?_⟩
    cases opened
    rfl

theorem openHandle_keeps_worked {h : Traced}
    (current : h.host.probe = .current) (netns name : String) :
    (backend.recorded.provider.openHandle name).Keeps
      fun s => Worked netns h s.host := by
  refine Worked.keeps (fun s _ => ?_) current
  obtain ⟨answer, t, opening, calls, traffic, -⟩ := openHandle_recorded name s
  rw [opening]
  exact .of_traffic_eq calls rfl rfl traffic netns

theorem openHandle_named {name : String} {s t : Session Traced}
    {handle : Handle}
    (opening : outcome (backend.recorded.provider.openHandle name) s =
      (.ok handle, t)) : handle.name = name := by
  obtain ⟨answer, u, opened, -, -, named⟩ := openHandle_recorded name s
  rw [opening] at opened
  exact named handle (congrArg Prod.fst opened).symm

/-- Work inside a namespace that has been entered is work for it.  The
namespace is left behind on the stack exactly if it cannot be left. -/
theorem Worked.of_switch {netns : String} {h k l m : Traced}
    (named : netns ≠ "") {handle : Handle} {state : SwitchState}
    {answer : Outcome Unit} (target : state.target = netns)
    (entered : k.calls = h.calls ++ [.provider (.entered handle (.ok state))])
    (pushed : k.host.traffic =
      { h.host.traffic with stack := netns :: h.host.traffic.stack })
    (worked : Worked "" k l)
    (left : m.calls = l.calls ++ [.provider (.left state answer)])
    (popped : (∃ f, answer = .error f) ∧ m.host.traffic = l.host.traffic ∨
      answer = .ok () ∧ m.host.traffic =
        { l.host.traffic with stack := l.host.traffic.stack.drop 1 }) :
    Worked netns h m := by
  obtain ⟨new, ran, traffic, unswitched⟩ := worked
  have inside : k.host.traffic.place "" = netns := by
    simp [Traffic.place, pushed]
  have outside : h.host.traffic.place netns = netns := by
    simp [Traffic.place, named]
  have none_stranded : stranded new = [] := unswitched rfl
  have worked : l.host.traffic =
      ⟨h.host.traffic.probe, netns :: h.host.traffic.stack,
        h.host.traffic.calls ++
          (requests new).map fun request => ⟨netns, request⟩⟩ := by
    rw [traffic, Traffic.after, inside, none_stranded, pushed]
    rfl
  refine ⟨.provider (.entered handle (.ok state)) ::
    (new ++ [.provider (.left state answer)]), ?_, ?_, fun default =>
      absurd default named⟩
  · rw [left, ran, entered]
    simp
  · rcases popped with ⟨⟨f, rfl⟩, stayed⟩ | ⟨rfl, back⟩
    · rw [stayed, worked]
      simp [Traffic.after, none_stranded, outside, target]
    · rw [back, worked]
      simp [Traffic.after, none_stranded, outside]

/-- A run inside a namespace makes its calls there, wherever the thread has
been before, and leaves behind that namespace or none. -/
theorem runInNamespace_worked {context : Context} {handle : Option Handle}
    {netns : String} (called : context.name = netns)
    (faithful : ∀ opened, handle = some opened → opened.name = netns)
    (operation : String) {act : Action (Session Traced) α}
    (hact : ∀ h : Traced, h.host.probe = .current →
      act.Keeps fun s => Worked "" h s.host)
    {s : Session Traced} (current : s.host.host.probe = .current) :
    Worked netns s.host
      (outcome (runInNamespace backend.recorded.provider context handle
        operation act) s).2.host := by
  subst called
  cases named : context.isDefault with
  | true =>
    have default : context.name = "" := by
      simpa [Context.isDefault] using named
    rw [outcome_runInNamespace_default _ _ _ _ handle named, default]
    exact hact s.host current s (.refl _ _)
  | false =>
    have different : context.name ≠ "" := by
      simpa [Context.isDefault] using named
    cases handle with
    | none =>
      rw [outcome_runInNamespace_closed _ _ _ _ named]
      exact .refl _ _
    | some handle =>
      have same : handle.name = context.name := faithful handle rfl
      rcases unlessPending_cases .entering (handle.name :: ·)
          (fun s => MemoryNamespaces.enter_cases s handle)
          (fun answer => .provider (.entered handle answer))
          (s.noting (.switching context.name operation))
        with ⟨e, t, entering, calls, traffic⟩ | ⟨t, entering, calls, traffic⟩
      · rw [outcome_runInNamespace_refused _ _ _ _ handle named entering]
        exact .of_traffic_eq calls rfl rfl traffic context.name
      · rw [outcome_runInNamespace_entered _ _ _ _ handle named entering,
          Scope.host_restore]
        have inside : t.host.host.probe = .current :=
          (congrArg Traffic.probe traffic).trans current
        have ran := hact t.host inside t (.refl _ _)
        rw [same] at traffic
        obtain ⟨answer, u, leaving, calls', popped⟩ :=
          exit_recorded (.detached handle.name) (outcome act t).2
        rw [leaving]
        exact .of_switch different same calls traffic ran calls' popped

end MemoryHost

end InterfaceManager

import Mathlib.Data.List.Induction
import InterfaceManager.Proofs.Recording
import InterfaceManager.Proofs.System.Errands

/-!
# The moments of a switch

A signal may arrive between any two system calls.  Switching in and switching
back are therefore also written over system calls that put on record what the
machine is after each of them; with the calls of a machine itself they are
the switches of its provider.

A thread that is not in the namespace where it started has every signal
blocked after each switch, whichever switch is ended when.  If each switch
back ends the latest switch, the same holds at every moment of every switch.
-/

namespace InterfaceManager

/-- An action with the host that it leaves put on record. -/
def Action.watched (act : Action (Session η) α) :
    Action (Session (Recorded η η)) α := fun s =>
  match Action.outcome act ⟨s.host.host, s.journal⟩ with
  | (.ok a, t) => .ok a (t.record (s.host.calls ++ [t.host]))
  | (.error f, t) => .error f (t.record (s.host.calls ++ [t.host]))

@[simp] theorem Action.outcome_watched
    (act : Action (Session η) α) (s : Session η) (before : List η) :
    Action.outcome act.watched (s.record before) =
      ((Action.outcome act s).1,
        (Action.outcome act s).2.record
          (before ++ [(Action.outcome act s).2.host])) := by
  simp only [Action.watched, Session.record, Action.outcome]
  cases act s <;> rfl

namespace Machine

open InterfaceManager.Action

/-! ## Switches over system calls -/

/-- The system calls that switches are made of. -/
structure SystemCalls (η : Type) where
  openFile : Text.Octets → Action (Session η) (Except FileFault FileObject)
  /-- Blocks every signal and gives those that were blocked before. -/
  blockSignals : Action (Session η) SignalSet
  setSignals : SignalSet → Action (Session η) Unit
  switchTo : FileObject → Action (Session η) (Except Errno Unit)

namespace SystemCalls

def save (calls : SystemCalls η) (config : NamespaceConfig) :
    Action (Session η) (Option SignalSet) :=
  if config.blockSignals then some <$> calls.blockSignals else return none

/-- Gives back the signals that were saved. -/
def giveBack (calls : SystemCalls η) :
    Option SignalSet → Action (Session η) Unit
  | none => return ()
  | some signals => calls.setSignals signals

/-- Moves the thread into the namespace of a handle. -/
def enter (calls : SystemCalls η) (config : NamespaceConfig)
    (handle : Handle) : Action (Session η) SwitchState := do
  let target := handle.name
  match handle.object with
  | none =>
    Action.fail (.namespaceSwitch target "Handle has no namespace descriptor")
  | some object =>
    match ← calls.openFile config.selfPath with
    | .error fault =>
      let shown := Text.decodeLossy config.selfPath
      Action.fail <| .namespaceSwitch target
        s!"Cannot open current namespace {shown}: {fault.message}"
    | .ok previous =>
      let saved ← calls.save config
      match ← calls.switchTo object with
      | .error e =>
        calls.giveBack saved
        Action.fail (.namespaceSwitch target e.symbolicMessage)
      | .ok () =>
        Session.note (.threadEntered target)
        return ⟨target, some previous, saved⟩

/-- Moves the thread back to where it was. -/
def leave (calls : SystemCalls η) (state : SwitchState) :
    Action (Session η) Unit := do
  match state.previous with
  | none =>
    Action.fail <| .namespaceSwitch state.target
      "No saved namespace to return to"
  | some previous =>
    match ← calls.switchTo previous with
    | .error e =>
      Action.fail (.namespaceSwitch state.target e.symbolicMessage)
    | .ok () =>
      calls.giveBack state.signals
      Session.note (.threadReturned state.target)

def onMachine : SystemCalls Machine where
  openFile path := do return (← get).host.openFile path
  blockSignals := modifyGet fun s =>
    (s.host.blocked, { s with host := s.host.blockSignals })
  setSignals signals :=
    modify fun s => { s with host := s.host.restoreSignals signals }
  switchTo object := modifyGet fun s =>
    match s.host.switchTo object with
    | .error e => (.error e, s)
    | .ok host => (.ok (), { s with host })

/-- System calls each of which puts on record what its host is after it. -/
def watched (calls : SystemCalls η) : SystemCalls (Recorded η η) where
  openFile path := (calls.openFile path).watched
  blockSignals := calls.blockSignals.watched
  setSignals signals := (calls.setSignals signals).watched
  switchTo object := (calls.switchTo object).watched

variable (s : Session Machine) (config : NamespaceConfig)

@[simp] theorem outcome_openFile (path : Text.Octets) :
    outcome (onMachine.openFile path) s = (.ok (s.host.openFile path), s) :=
  rfl

@[simp] theorem outcome_blockSignals :
    outcome onMachine.blockSignals s =
      (.ok s.host.blocked, { s with host := s.host.blockSignals }) := rfl

@[simp] theorem outcome_setSignals (signals : SignalSet) :
    outcome (onMachine.setSignals signals) s =
      (.ok (), { s with host := s.host.restoreSignals signals }) := rfl

theorem outcome_switchTo (object : FileObject) :
    outcome (onMachine.switchTo object) s =
      match s.host.switchTo object with
      | .error e => (.ok (.error e), s)
      | .ok host => (.ok (.ok ()), { s with host }) := by
  rw [onMachine, outcome_modifyGet]
  cases s.host.switchTo object <;> rfl

/-- Over the calls of a machine, switching in is what its provider does. -/
theorem outcome_enter (handle : Handle) :
    outcome (onMachine.enter config handle) s =
      outcome ((provider config).enter handle) s := by
  rcases held : handle.object with _ | object
  · simp only [enter, provider, Machine.enter, held]
  rcases opening : s.host.openFile config.selfPath with fault | previous
  · simp [enter, provider, Machine.enter, held, outcome_bind, opening]
  have saving : outcome (onMachine.save config) s =
      outcome (saveSignals config) s := by
    cases blocks : config.blockSignals <;>
      simp [save, saveSignals, blocks, outcome_bind, outcome_map, Except.map]
  simp only [enter, provider, Machine.enter, held, outcome_bind, outcome_get,
    outcome_openFile, opening, saving, outcome_saveSignals, outcome_switchTo]
  rcases (entered config s.host s.host.current).switchTo object with e | host
  · cases savedSignals config s.host <;> rfl
  · rfl

/-- Over the calls of a machine, switching back is what its provider does. -/
theorem outcome_leave (state : SwitchState) :
    outcome (onMachine.leave state) s =
      outcome ((provider config).exit state) s := by
  rcases saved : state.previous with _ | previous
  · simp only [leave, provider, Machine.leave, saved]
  simp only [leave, provider, Machine.leave, saved, outcome_bind, outcome_get,
    outcome_switchTo]
  rcases s.host.switchTo previous with e | host
  · rfl
  · cases state.signals <;> rfl

end SystemCalls

/-- The provider whose system calls are watched. -/
def watchedProvider (config : NamespaceConfig) :
    NamespaceProvider (Recorded Machine Machine) where
  openHandle name := (openHandle config name).watched
  enter := SystemCalls.onMachine.watched.enter config
  exit := SystemCalls.onMachine.watched.leave

/-! ## What one switch goes through -/

/-- The set has every signal that can be blocked. -/
def Full (signals : SignalSet) : Prop :=
  signals &&& SignalSet.blockable = SignalSet.blockable

instance (signals : SignalSet) : Decidable (Full signals) :=
  inferInstanceAs (Decidable (_ = _))

/-- Every signal that can be blocked is blocked. -/
def Shielded (m : Machine) : Prop := Full m.blocked

instance (m : Machine) : Decidable m.Shielded :=
  inferInstanceAs (Decidable (Full _))

theorem shielded_blockSignals (m : Machine) : m.blockSignals.Shielded := by
  rw [Shielded, Full, blockSignals]
  ext i hi
  simp only [BitVec.getElem_or, BitVec.getElem_and]
  cases m.blocked[i] <;> cases SignalSet.blockable[i] <;> rfl

/-- Giving back a full set blocks every signal. -/
theorem shielded_restoreSignals {m : Machine} {signals : SignalSet}
    (full : Full signals) : (m.restoreSignals signals).Shielded := by
  rw [Full] at full
  rw [Shielded, Full, restoreSignals, full, BitVec.and_self]

/-- What the configured file opens, if anything, is the namespace of the
thread. -/
def OpensSelf (config : NamespaceConfig) (m : Machine) : Prop :=
  ∀ object, m.openFile config.selfPath = .ok object →
    object = .namespace m.current

/-- A switch in from `m` that ended with `answer` and left `n`. -/
structure Entering (m n : Machine) (moments : List Machine)
    (answer : Outcome SwitchState) : Prop where
  /-- The thread has not moved yet, or every signal is blocked. -/
  shielded : ∀ moment ∈ moments, moment.Shielded ∨
    moment.current = m.current ∧ (m.Shielded → moment.Shielded)
  failed : ∀ f, answer = .error f →
    n.current = m.current ∧ (m.Shielded → n.Shielded)
  switched : ∀ state, answer = .ok state → n.Shielded ∧
    state.previous = some (.namespace m.current) ∧
    state.signals = some m.blocked

/-- Watching a switch in changes nothing else. -/
theorem watched_enter {config : NamespaceConfig}
    (blocks : config.blockSignals = true) (handle : Handle)
    {s : Session Machine} (opens : OpensSelf config s.host)
    (before : List Machine) :
    let ran := outcome ((provider config).enter handle) s
    ∃ moments,
      outcome ((watchedProvider config).enter handle) (s.record before) =
        (ran.1, ran.2.record (before ++ moments)) ∧
      Entering s.host ran.2.host moments ran.1 := by
  simp only [← SystemCalls.outcome_enter, watchedProvider]
  rcases held : handle.object with _ | object
  · refine ⟨[], ?_⟩
    simp only [SystemCalls.enter, held, outcome_fail, List.append_nil]
    exact ⟨trivial, by simp, fun _ _ => ⟨rfl, id⟩, by simp⟩
  rcases opening : s.host.openFile config.selfPath with fault | previous
  · refine ⟨[s.host], ?_⟩
    simp only [SystemCalls.enter, held, outcome_bind, opening, outcome_fail,
      SystemCalls.watched, outcome_watched, SystemCalls.outcome_openFile]
    exact ⟨trivial, by simp, fun _ _ => ⟨rfl, id⟩, by simp⟩
  have itself : previous = .namespace s.host.current := opens _ opening
  have covered : s.host.blockSignals.Shielded := shielded_blockSignals _
  rcases switchTo_cases s.host.blockSignals object
    with ⟨e, switching⟩ | ⟨netns, -, switching⟩
  · -- The signals are given back where the thread still is.
    let undone := s.host.blockSignals.restoreSignals s.host.blocked
    have undoing : s.host.Shielded → undone.Shielded :=
      shielded_restoreSignals
    refine ⟨[s.host, s.host.blockSignals, s.host.blockSignals, undone], ?_⟩
    simp only [SystemCalls.enter, held, outcome_bind, opening, outcome_fail,
      SystemCalls.watched, outcome_watched, SystemCalls.outcome_openFile,
      SystemCalls.save, blocks, if_true, outcome_map, Except.map,
      SystemCalls.outcome_blockSignals, SystemCalls.outcome_switchTo,
      switching, SystemCalls.giveBack, SystemCalls.outcome_setSignals]
    constructor
    · simp [undone]
    constructor
    · simp only [List.forall_mem_cons]
      exact ⟨Or.inr ⟨trivial, id⟩, Or.inl covered, Or.inl covered,
        Or.inr ⟨rfl, undoing⟩, by simp⟩
    · intro f failed
      exact ⟨rfl, undoing⟩
    · intro state switched
      cases switched
  · let moved : Machine := { s.host.blockSignals with current := netns }
    have away : moved.Shielded := covered
    refine ⟨[s.host, s.host.blockSignals, moved], ?_⟩
    simp only [SystemCalls.enter, held, outcome_bind, opening, outcome_pure,
      SystemCalls.watched, outcome_watched, SystemCalls.outcome_openFile,
      SystemCalls.save, blocks, if_true, outcome_map, Except.map,
      SystemCalls.outcome_blockSignals, SystemCalls.outcome_switchTo,
      switching, Session.outcome_note, Session.noting_record]
    constructor
    · simp [moved]
    constructor
    · simp [covered, away]
    · intro f failed
      cases failed
    · intro state switched
      cases switched
      exact ⟨away, congrArg some itself, rfl⟩

/-- A switch back from `m` by `state` that left `n`: nothing happened, or the
thread was moved and then the signals were given back. -/
def Leaving (state : SwitchState) (m n : Machine) (moments : List Machine) :
    Prop :=
  (n = m ∧ ∀ moment ∈ moments, moment = m) ∨
    ∃ previous netns,
      state.previous = some previous ∧ m.namespaceOf? previous = some netns ∧
      n = returned state.signals m netns ∧
      ∀ moment ∈ moments, moment = { m with current := netns } ∨ moment = n

/-- Watching a switch back changes nothing else. -/
theorem watched_exit (config : NamespaceConfig) (state : SwitchState)
    (s : Session Machine) (before : List Machine) :
    let ran := outcome ((provider config).exit state) s
    ∃ moments,
      outcome ((watchedProvider config).exit state) (s.record before) =
        (ran.1, ran.2.record (before ++ moments)) ∧
      Leaving state s.host ran.2.host moments := by
  simp only [← SystemCalls.outcome_leave, watchedProvider]
  rcases saved : state.previous with _ | previous
  · refine ⟨[], ?_⟩
    simp only [SystemCalls.leave, saved, outcome_fail, List.append_nil]
    exact ⟨trivial, Or.inl ⟨rfl, by simp⟩⟩
  rcases switchTo_cases s.host previous
    with ⟨e, switching⟩ | ⟨netns, leads, switching⟩
  · refine ⟨[s.host], ?_⟩
    simp only [SystemCalls.leave, saved, outcome_bind, outcome_fail,
      SystemCalls.watched, outcome_watched, SystemCalls.outcome_switchTo,
      switching]
    exact ⟨trivial, Or.inl ⟨rfl, by simp⟩⟩
  · let moved : Machine := { s.host with current := netns }
    rcases given : state.signals with _ | mask
    · refine ⟨[moved], ?_⟩
      simp only [SystemCalls.leave, saved, outcome_bind, outcome_pure,
        SystemCalls.watched, outcome_watched, SystemCalls.outcome_switchTo,
        switching, SystemCalls.giveBack, given, Session.outcome_note,
        Session.noting_record]
      refine ⟨rfl, Or.inr ⟨previous, netns, saved, leads, ?_, ?_⟩⟩
      · simp [returned, given]
      · simp [moved]
    · refine ⟨[moved, moved.restoreSignals mask], ?_⟩
      simp only [SystemCalls.leave, saved, outcome_bind,
        SystemCalls.watched, outcome_watched, SystemCalls.outcome_switchTo,
        switching, SystemCalls.giveBack, given, Session.outcome_note,
        Session.noting_record, SystemCalls.outcome_setSignals]
      refine ⟨by simp [moved], Or.inr ⟨previous, netns, saved, leads, ?_, ?_⟩⟩
      · simp [returned, given, restoreSignals]
      · simp [moved]

/-! ## Journeys -/

/-- Where a thread has come by its switches. -/
structure Journey (η : Type) where
  session : Session η
  /-- The switches that have not been ended yet, the latest one first. -/
  outstanding : List SwitchState

/-- What may happen on a journey. -/
inductive Leg where
  | enter (handle : Handle)
  /-- Ends an outstanding switch, counted from the latest one. -/
  | exit (place : Nat)
  /-- Something that leaves the thread alone, such as a change of what the
  kernel refuses. -/
  | aside (happening : Aside)

namespace Journey

def start (host : η) : Journey η := ⟨.start host, []⟩

/-- The journey after one leg.  A switch that could not be ended is not
outstanding any more. -/
def travel (provider : NamespaceProvider η)
    (befall : (Machine → Machine) → η → η) (j : Journey η) :
    Leg → Journey η
  | .enter handle =>
    match outcome (provider.enter handle) j.session with
    | (.ok state, s) => ⟨s, state :: j.outstanding⟩
    | (.error _, s) => ⟨s, j.outstanding⟩
  | .exit place =>
    match j.outstanding[place]? with
    | some state =>
      ⟨(outcome (provider.exit state) j.session).2,
        j.outstanding.eraseIdx place⟩
    | none => j
  | .aside happening =>
    { j with
      session :=
        { j.session with host := befall happening.apply j.session.host } }

/-- The journey of a thread after some legs. -/
def along (config : NamespaceConfig) (legs : List Leg) (m : Machine) :
    Journey Machine :=
  legs.foldl (travel (provider config) id) (start m)

/-- The same journey with every moment on record. -/
def watchedAlong (config : NamespaceConfig) (legs : List Leg) (m : Machine) :
    Journey (Recorded Machine Machine) :=
  legs.foldl
    (travel (watchedProvider config) fun apply r =>
      { r with host := apply r.host })
    (start ⟨m, []⟩)

def record (j : Journey Machine) (moments : List Machine) :
    Journey (Recorded Machine Machine) :=
  ⟨j.session.record moments, j.outstanding⟩

end Journey

/-! ## What every journey keeps -/

/-- The thread is at home, or it has every signal blocked. -/
def SafeFrom (home : String) (m : Machine) : Prop :=
  m.current ≠ home → m.Shielded

/-- Ending the switch leads home, or every signal stays blocked. -/
def LeadsSafely (home : String) (state : SwitchState) : Prop :=
  ∃ netns mask, state.previous = some (.namespace netns) ∧
    state.signals = some mask ∧ (netns ≠ home → Full mask)

theorem Shielded.safeFrom {m : Machine} (shielded : m.Shielded)
    (home : String) : m.SafeFrom home :=
  fun _ => shielded

/-- Only the latest switch is ended. -/
def Leg.Latest : Leg → Prop
  | exit place => place = 0
  | _ => True

namespace Journey

/-- However the outstanding switches are ended, the thread stays safe. -/
structure Sound (home : String) (j : Journey Machine) : Prop where
  safe : j.session.host.SafeFrom home
  saved : ∀ state ∈ j.outstanding, LeadsSafely home state

/-- While a switch is outstanding every signal is blocked, and only the
earliest one has saved anything else. -/
structure Nested (j : Journey Machine) : Prop where
  shielded : j.outstanding ≠ [] → j.session.host.Shielded
  saved : j.outstanding.Pairwise fun later _ =>
    ∀ mask, later.signals = some mask → Full mask

/-- What a leg from `j` that led to `k` keeps. -/
structure Keeps (home : String) (leg : Leg) (j k : Journey Machine)
    (moments : List Machine) : Prop where
  sound : k.Sound home
  nested : leg.Latest → j.Nested → k.Nested
  safe : leg.Latest → j.Nested → ∀ moment ∈ moments, moment.SafeFrom home

variable {config : NamespaceConfig} {home : String} {j : Journey Machine}

theorem travel_enter (blocks : config.blockSignals = true)
    (opens : OpensSelf config j.session.host) (sound : j.Sound home)
    (befall : (Machine → Machine) → Recorded Machine Machine →
      Recorded Machine Machine)
    (handle : Handle) (before : List Machine) :
    let k := j.travel (provider config) id (.enter handle)
    ∃ moments,
      (j.record before).travel (watchedProvider config) befall
        (.enter handle) = k.record (before ++ moments) ∧
      Keeps home (.enter handle) j k moments := by
  obtain ⟨moments, watching, entering⟩ :=
    watched_enter blocks handle opens before
  refine ⟨moments, ?_⟩
  have safe : ∀ moment ∈ moments, moment.SafeFrom home := by
    intro moment recorded away
    rcases entering.shielded moment recorded with shielded | ⟨here, kept⟩
    · exact shielded
    · rw [here] at away
      exact kept (sound.safe away)
  simp only [travel, record]
  rcases entered : outcome ((provider config).enter handle) j.session
    with ⟨f | state, t⟩
  · simp only [entered] at watching entering
    obtain ⟨here, kept⟩ := entering.failed f rfl
    rw [watching]
    refine ⟨rfl, ⟨?_, sound.saved⟩, ?_, fun _ _ => safe⟩
    · intro away
      rw [here] at away
      exact kept (sound.safe away)
    · intro _ nested
      exact ⟨fun some => kept (nested.shielded some), nested.saved⟩
  · simp only [entered] at watching entering
    obtain ⟨shielded, previous, signals⟩ := entering.switched state rfl
    rw [watching]
    refine ⟨rfl, ⟨shielded.safeFrom home, ?_⟩, ?_, fun _ _ => safe⟩
    · rw [List.forall_mem_cons]
      exact ⟨⟨_, _, previous, signals, sound.safe⟩, sound.saved⟩
    · intro _ nested
      refine ⟨fun _ => shielded, List.pairwise_cons.2 ⟨?_, nested.saved⟩⟩
      intro earlier outstanding mask saved
      have full := nested.shielded (List.ne_nil_of_mem outstanding)
      cases signals.symm.trans saved
      exact full

/-- The latest switch has saved a full set if it is not the only one. -/
theorem Nested.full_latest {state : SwitchState} {mask : SignalSet}
    (nested : j.Nested) (latest : j.outstanding[0]? = some state)
    (given : state.signals = some mask)
    (others : j.outstanding.eraseIdx 0 ≠ []) : Full mask := by
  have saved := nested.saved
  rcases held : j.outstanding with _ | ⟨first, earlier⟩
  · simp [held] at latest
  · rw [held] at latest saved others
    cases latest
    obtain ⟨other, outstanding⟩ := List.exists_mem_of_ne_nil _ others
    exact (List.pairwise_cons.1 saved).1 other outstanding mask given

theorem travel_exit (config : NamespaceConfig) (sound : j.Sound home)
    (befall : (Machine → Machine) → Recorded Machine Machine →
      Recorded Machine Machine)
    (place : Nat) (before : List Machine) :
    let k := j.travel (provider config) id (.exit place)
    ∃ moments,
      (j.record before).travel (watchedProvider config) befall
        (.exit place) = k.record (before ++ moments) ∧
      Keeps home (.exit place) j k moments := by
  rcases found : j.outstanding[place]? with _ | state
  · refine ⟨[], ?_⟩
    simp only [travel, record, found, List.append_nil]
    exact ⟨trivial, sound, fun _ nested => nested, by simp⟩
  obtain ⟨moments, watching, leaving⟩ :=
    watched_exit config state j.session before
  refine ⟨moments, ?_⟩
  simp only [travel, record, found, watching]
  refine ⟨trivial, ?_⟩
  have outstanding : state ∈ j.outstanding := List.mem_of_getElem? found
  have rest : ∀ other ∈ j.outstanding.eraseIdx place,
      LeadsSafely home other :=
    fun other kept => sound.saved other (List.mem_of_mem_eraseIdx kept)
  have fewer : (j.outstanding.eraseIdx place).Sublist j.outstanding :=
    List.eraseIdx_sublist _ _
  rcases leaving with ⟨stayed, still⟩ |
    ⟨previous, netns, back, leads, moved, passed⟩
  · have safe := sound.safe
    constructor
    · rw [← stayed] at safe
      exact ⟨safe, rest⟩
    · intro _ nested
      have shielded := nested.shielded (List.ne_nil_of_mem outstanding)
      rw [← stayed] at shielded
      exact ⟨fun _ => shielded, nested.saved.sublist fewer⟩
    · intro _ _ moment recorded
      rw [still moment recorded]
      exact safe
  · obtain ⟨_, mask, led, given, full⟩ := sound.saved state outstanding
    cases back.symm.trans led
    cases leads
    rw [given] at moved
    have returning : Full mask → (outcome ((provider config).exit state)
        j.session).2.host.Shielded := by
      intro all
      rw [moved]
      exact shielded_restoreSignals (m := j.session.host) all
    have safe : (outcome ((provider config).exit state)
        j.session).2.host.SafeFrom home := by
      intro away
      rw [moved] at away
      exact returning (full away)
    constructor
    · exact ⟨safe, rest⟩
    · rintro rfl nested
      refine ⟨fun others => ?_, nested.saved.sublist fewer⟩
      exact returning (nested.full_latest found given others)
    · rintro rfl nested moment recorded
      rcases passed moment recorded with rfl | rfl
      · -- The thread has moved, and the signals are still to be given back.
        intro _
        exact nested.shielded (List.ne_nil_of_mem outstanding)
      · exact safe

/-- What leaves the thread alone leaves a journey as safe as it was. -/
theorem travel_aside (config : NamespaceConfig) (sound : j.Sound home)
    (happening : Aside) :
    Keeps home (.aside happening) j
      (j.travel (provider config) id (.aside happening)) [] := by
  have still := happening.thread_apply j.session.host
  have here : (happening.apply j.session.host).current =
      j.session.host.current := congrArg Prod.fst still
  have blocked : (happening.apply j.session.host).blocked =
      j.session.host.blocked := congrArg Prod.snd still
  constructor
  · refine ⟨?_, sound.saved⟩
    simp only [SafeFrom, Shielded, travel, id, here, blocked]
    exact sound.safe
  · intro _ nested
    refine ⟨?_, nested.saved⟩
    simp only [Shielded, travel, id, blocked]
    exact nested.shielded
  · simp

theorem sound_start (m : Machine) : (start m).Sound m.current where
  safe away := absurd rfl away
  saved := by simp [start]

theorem nested_start (m : Machine) : (start m).Nested where
  shielded some := absurd rfl some
  saved := List.Pairwise.nil

/-- Watching a journey changes nothing else, and every journey is safe. -/
theorem along_keeps (blocks : config.blockSignals = true) (m : Machine)
    (legs : List Leg)
    (opens : ∀ earlier, earlier <+: legs →
      OpensSelf config (along config earlier m).session.host) :
    ∃ moments,
      watchedAlong config legs m = (along config legs m).record moments ∧
      (along config legs m).Sound m.current ∧
      ((∀ leg ∈ legs, leg.Latest) → (along config legs m).Nested ∧
        ∀ moment ∈ moments, moment.SafeFrom m.current) := by
  induction legs using List.reverseRecOn with
  | nil =>
    refine ⟨[], rfl, sound_start m, fun _ => ⟨nested_start m, ?_⟩⟩
    simp
  | append_singleton legs leg ih =>
    obtain ⟨before, watching, sound, nesting⟩ := ih fun earlier begins =>
      opens earlier (begins.trans (List.prefix_append legs [leg]))
    have opensHere := opens legs (List.prefix_append legs [leg])
    let befall : (Machine → Machine) → Recorded Machine Machine →
        Recorded Machine Machine := fun apply r =>
      { r with host := apply r.host }
    have travelled : ∃ moments,
        ((along config legs m).record before).travel
            (watchedProvider config) befall leg =
          ((along config legs m).travel (provider config) id leg).record
            (before ++ moments) ∧
        Keeps m.current leg (along config legs m)
          ((along config legs m).travel (provider config) id leg)
          moments := by
      cases leg with
      | enter handle =>
        exact travel_enter blocks opensHere sound befall handle before
      | exit place => exact travel_exit config sound befall place before
      | aside happening =>
        refine ⟨[], ?_, travel_aside config sound happening⟩
        rw [List.append_nil]
        rfl
    obtain ⟨moments, step, kept⟩ := travelled
    have further : along config (legs ++ [leg]) m =
        (along config legs m).travel (provider config) id leg := by
      simp [along]
    have watchedFurther : watchedAlong config (legs ++ [leg]) m =
        (watchedAlong config legs m).travel (watchedProvider config)
          befall leg := by
      simp [watchedAlong, befall]
    refine ⟨before ++ moments, ?_, ?_, ?_⟩
    · rw [further, watchedFurther, watching, step]
    · rw [further]
      exact kept.sound
    · intro latest
      rw [List.forall_mem_append, List.forall_mem_singleton] at latest
      obtain ⟨nested, safe⟩ := nesting latest.1
      rw [further, List.forall_mem_append]
      exact ⟨kept.nested latest.2 nested, safe, kept.safe latest.2 nested⟩

end Journey

/-! ## No handler runs in another namespace -/

/-- With signals blocked during switches, a thread that is not where it
started has every signal blocked after every switch, whatever switches fail
and in whatever order they are ended.  If only latest switches are ended,
this holds after every system call. -/
theorem shielded_away_from_home {config : NamespaceConfig}
    (blocks : config.blockSignals = true) (m : Machine) (legs : List Leg)
    (opens : ∀ earlier, earlier <+: legs →
      OpensSelf config (Journey.along config earlier m).session.host) :
    (∀ earlier, earlier <+: legs →
      let reached := (Journey.along config earlier m).session.host
      reached.current ≠ m.current → reached.Shielded) ∧
    ((∀ leg ∈ legs, leg.Latest) →
      let watched := (Journey.watchedAlong config legs m).session.host
      watched.host = (Journey.along config legs m).session.host ∧
      ∀ moment ∈ watched.calls,
        moment.current ≠ m.current → moment.Shielded) := by
  constructor
  · intro earlier begins
    obtain ⟨-, -, sound, -⟩ := Journey.along_keeps blocks m earlier
      fun first starts => opens first (starts.trans begins)
    exact sound.safe
  · intro latest
    obtain ⟨moments, watching, -, nesting⟩ :=
      Journey.along_keeps blocks m legs opens
    rw [watching]
    exact ⟨rfl, (nesting latest).2⟩

/-- A switch back that does not end the latest switch gives signals back too
early: the next one passes through another namespace without protection. -/
example :
    let legs : List Leg :=
      [.enter ⟨"outer", some (.namespace "outer")⟩,
        .enter ⟨"inner", some (.namespace "inner")⟩, .exit 1, .exit 0]
    let watched := (Journey.watchedAlong selfConfig legs selfMachine).session
    ∃ moment ∈ watched.host.calls,
      moment.current = "outer" ∧ ¬moment.Shielded := by
  decide +kernel

/-- A journey into two namespaces whose ways back are refused: one switch
back fails and leaves the thread where it is, and one switch in is undone. -/
def refusedLegs : List Leg :=
  [.enter ⟨"outer", some (.namespace "outer")⟩,
    .enter ⟨"inner", some (.namespace "inner")⟩,
    .aside (.ofChange (.setKernel
      { Kernel.empty with switchErrors := [("outer", .notPermitted)] })),
    .exit 0,
    .enter ⟨"outer", some (.namespace "outer")⟩]

theorem opensSelf_of_files {m : Machine} (same : m.files = selfMachine.files) :
    OpensSelf selfConfig m := by
  intro object opening
  cases (openFile_self same).symm.trans opening
  rfl

theorem shielded_on_refusedLegs :
    let ended := (Journey.along selfConfig refusedLegs selfMachine).session.host
    let watched :=
      (Journey.watchedAlong selfConfig refusedLegs selfMachine).session.host
    (∀ earlier, earlier <+: refusedLegs → OpensSelf selfConfig
      (Journey.along selfConfig earlier selfMachine).session.host) ∧
    (∀ leg ∈ refusedLegs, leg.Latest) ∧
    ended.current = "inner" ∧ ended.Shielded ∧
    watched.calls.map (fun moment => moment.current) =
      ["", "", "outer", "outer", "outer", "inner", "inner", "inner", "inner",
        "inner", "inner"] ∧
    ∀ moment ∈ watched.calls, moment.current ≠ "" → moment.Shielded := by
  intro ended watched
  have opens : ∀ earlier, earlier <+: refusedLegs → OpensSelf selfConfig
      (Journey.along selfConfig earlier selfMachine).session.host := by
    intro earlier begins
    simp only [refusedLegs, List.prefix_cons_iff, List.prefix_nil] at begins
    rcases begins with rfl | ⟨_, rfl, rfl | ⟨_, rfl, rfl | ⟨_, rfl, rfl |
      ⟨_, rfl, rfl | ⟨_, rfl, rfl⟩⟩⟩⟩⟩ <;>
      exact opensSelf_of_files (by decide +kernel)
  have latest : ∀ leg ∈ refusedLegs, leg.Latest := by
    simp [refusedLegs, Leg.Latest]
  have blocks : selfConfig.blockSignals = true := rfl
  obtain ⟨after, throughout⟩ :=
    shielded_away_from_home blocks selfMachine refusedLegs opens
  have away : ended.current = "inner" := by decide +kernel
  refine ⟨opens, latest, away, ?_, by decide +kernel, (throughout latest).2⟩
  apply after refusedLegs List.prefix_rfl
  exact away ▸ by decide

end Machine
end InterfaceManager

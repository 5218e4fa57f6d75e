import InterfaceManager.Proofs.Device.Callbacks

/-!
# Refreshes

A refresh queries the interface first and feeds what was found to the device
after that.  If the query fails, nothing but the session has changed.  If it
succeeds and no callback panics, the device has the values that were found;
the callbacks for those among them that were new have been called, each once
and in their order, and nothing else has happened to the host since the query.
-/

namespace InterfaceManager

open InterfaceManager.Action

namespace Device

/-- Those of the observations that are new to the device. -/
def news (d : Device ε) (observations : List Observation) :
    List Observation :=
  observations.filter fun observation =>
    d.observed observation.kind != some observation

/-- Those of the observations for which a callback is called. -/
def heard (d : Device ε) (observations : List Observation) :
    List Observation :=
  (d.news observations).filter fun observation =>
    (d.callback observation.kind).isSome

variable {d : Device ε} {observation : Observation}
  {observations : List Observation}

/-- Storing a value that is known changes nothing. -/
theorem store_known (known : d.observed observation.kind = some observation) :
    d.store observation = d := by
  obtain ⟨⟩ := d
  cases observation <;>
    simp_all [observed, store, Observation.kind]

/-- A value of another kind has no part in the change that an observation
makes. -/
theorem changeOf_store {other : Observation}
    (different : observation.kind ≠ other.kind) :
    other.changeOf (d.store observation) = other.changeOf d := by
  cases other with
  | upDown up => rfl
  | mtu mtu => rfl
  | devName name =>
    cases observation with
    | devName name => exact absurd rfl different
    | upDown up => rfl
    | mtu mtu => rfl

theorem news_store
    (different : ∀ other ∈ observations, observation.kind ≠ other.kind) :
    (d.store observation).news observations = d.news observations := by
  refine List.filter_congr fun other among => ?_
  rw [observed_store, if_neg (different other among)]

theorem heard_store
    (different : ∀ other ∈ observations, observation.kind ≠ other.kind) :
    (d.store observation).heard observations = d.heard observations := by
  rw [heard, news_store different, store_callback, heard]

theorem news_known (known : d.observed observation.kind = some observation) :
    d.news [observation] = [] := by
  simp [news, known]

theorem news_new (new : d.observed observation.kind ≠ some observation) :
    d.news [observation] = [observation] := by
  simp [news, new]

theorem heard_known (known : d.observed observation.kind = some observation) :
    d.heard [observation] = [] := by
  rw [heard, news_known known, List.filter_nil]

theorem heard_new (new : d.observed observation.kind ≠ some observation) :
    d.heard [observation] =
      if (d.callback observation.kind).isSome = true
      then [observation] else [] := by
  rw [heard, news_new new, List.filter_singleton]
  simp

theorem news_append (d : Device ε) (first others : List Observation) :
    d.news (first ++ others) = d.news first ++ d.news others :=
  List.filter_append first others

theorem heard_append (d : Device ε) (first others : List Observation) :
    d.heard (first ++ others) = d.heard first ++ d.heard others := by
  rw [heard, news_append, List.filter_append, heard, heard]

end Device

namespace DeviceState

variable {backend : Backend η ε} {s t u : DeviceState η ε}
  {rest : List (Device ε)} {observation : Observation}
  {observations : List Observation}

/-! ## Calls -/

/-- The callbacks of a device for some observations have been called one after
another and have returned.  Each has found the host as the one before it has
left it. -/
inductive CalledInTurn (backend : Backend η ε) (d : Device ε) :
    η → List Observation → η → Prop
  | done (host : η) : CalledInTurn backend d host [] host
  | next {s t : DeviceState η ε} {observation : Observation}
      {observations : List Observation} {host : η}
      (own : s.device.id = d.id) (callbacks : s.device.callback = d.callback)
      (returned : outcome (call backend observation) s = (.ok (), t))
      (others : CalledInTurn backend d t.manager.session.host observations
        host) :
      CalledInTurn backend d s.manager.session.host
        (observation :: observations) host

theorem CalledInTurn.congr {d e : Device ε} {h k : η}
    (called : CalledInTurn backend d h observations k) (own : d.id = e.id)
    (callbacks : d.callback = e.callback) :
    CalledInTurn backend e h observations k := by
  induction called with
  | done host => exact .done host
  | next same present returned others ih =>
    exact .next (same.trans own) (present.trans callbacks) returned ih

theorem CalledInTurn.append {d : Device ε} {h k l : η}
    {later : List Observation}
    (first : CalledInTurn backend d h observations k)
    (second : CalledInTurn backend d k later l) :
    CalledInTurn backend d h (observations ++ later) l := by
  induction first with
  | done host => exact second
  | next own callbacks returned others ih =>
    exact .next own callbacks returned (ih second)

/-- The call of a callback that returns, or none if it is not set. -/
theorem call_returned (answers : backend.Answers)
    (sound : s.manager.Sound backend (s.device :: rest))
    (returned : outcome (call backend observation) s = (.ok (), t)) :
    let called := if (s.device.callback observation.kind).isSome = true
      then [observation] else []
    Undisturbed backend rest s t ∧
    Report.calls t.reports = Report.calls s.reports ++ called ∧
    CalledInTurn backend s.device s.manager.session.host called
      t.manager.session.host := by
  intro called
  refine ⟨?_, ?_, ?_⟩
  · rcases call_cases answers sound observation
      with ⟨u, calling, undisturbed⟩ | ⟨message, u, calling, -⟩ <;>
      rw [returned] at calling <;> cases calling
    exact undisturbed
  · have silent : ∀ r : Report ε, r.call? = none → r.call? = none :=
      fun _ none => none
    have seen := call_seen backend silent observation s
    rw [returned] at seen
    exact seen
  · by_cases set : (s.device.callback observation.kind).isSome = true
    · rw [show called = [observation] from if_pos set]
      exact .next rfl rfl returned (.done _)
    · have absent : s.device.callback observation.kind = none := by
        simpa using set
      have same : outcome (call backend observation) s = (.ok (), s) := by
        simp [call, outcome_bind, absent]
      rw [same] at returned
      cases returned
      rw [show called = [] from if_neg set]
      exact .done _

/-- From `s` to `t` a registered device has taken note of observations, and
every callback that was called for them has returned. -/
structure TakesNote (backend : Backend η ε) (rest : List (Device ε))
    (s : DeviceState η ε) (observations : List Observation)
    (t : DeviceState η ε) : Prop where
  sound : t.manager.Sound backend (t.device :: rest)
  device : t.device = observations.foldl Device.store s.device
  changes : backend.Discreet → t.manager.session.changes =
    s.manager.session.changes ++ (s.device.news observations).map
      fun observation => (s.device.name, observation.changeOf s.device)
  calls : Report.calls t.reports =
    Report.calls s.reports ++ s.device.heard observations
  host : CalledInTurn backend s.device s.manager.session.host
    (s.device.heard observations) t.manager.session.host

theorem notify_takesNote (answers : backend.Answers)
    (sound : s.manager.Sound backend (s.device :: rest))
    (registered : s.device.isRegistered = true)
    (returned : outcome (notify backend observation) s = (.ok (), t)) :
    TakesNote backend rest s [observation] t := by
  by_cases known : s.device.observed observation.kind = some observation
  · rw [outcome_notify_known backend s registered known] at returned
    cases returned
    refine ⟨sound, (Device.store_known known).symm, fun _ => ?_, ?_, ?_⟩
    · rw [Device.news_known known, List.map_nil, List.append_nil]
    · rw [Device.heard_known known, List.append_nil]
    · rw [Device.heard_known known]
      exact .done _
  · have heeds : Heeds s.device observation := ⟨registered, known⟩
    have noted : (noticing s observation).manager.session.changes =
        s.manager.session.changes ++ (s.device.news [observation]).map
          fun observation =>
            (s.device.name, observation.changeOf s.device) := by
      rw [Device.news_new known]
      exact Session.changes_noting _ _
    -- A rename calls its callback before it is stored, the others after.
    by_cases renamed : observation.kind = .devName
    · obtain ⟨name, rfl⟩ : ∃ name, observation = .devName name := by
        cases observation with
        | devName name => exact ⟨name, rfl⟩
        | upDown up => cases renamed
        | mtu mtu => cases renamed
      rw [outcome_notify_renamed backend s registered known] at returned
      obtain ⟨⟨⟩, u, calling, storing⟩ := outcome_bind_ok returned
      cases storing
      have before : (noticing s (.devName name)).manager.Sound backend
          ((noticing s (.devName name)).device :: rest) := sound.noting rfl
      obtain ⟨undisturbed, calls, host⟩ := call_returned answers before calling
      have advance := (Notified.renamed heeds undisturbed).advance sound
      have device : u.device = s.device := undisturbed.device
      refine ⟨advance.sound, ?_, fun discreet => ?_, ?_, ?_⟩
      · exact congrArg (Device.store · (.devName name)) device
      · exact (undisturbed.changes discreet).trans noted
      · rw [Device.heard_new known]
        exact calls
      · rw [Device.heard_new known]
        exact host
    · rw [outcome_notify_changed backend s registered renamed known] at returned
      have stored := storing_advance sound heeds
      obtain ⟨undisturbed, calls, host⟩ :=
        call_returned answers stored.sound returned
      have callbacks := s.device.store_callback observation
      have own := s.device.id_store observation
      have heard : s.device.heard [observation] =
          if ((s.device.store observation).callback observation.kind).isSome =
            true then [observation] else [] := by
        rw [callbacks]
        exact Device.heard_new known
      refine ⟨?_, undisturbed.device, fun discreet => ?_, ?_, ?_⟩
      · exact undisturbed.device ▸ undisturbed.sound
      · exact (undisturbed.changes discreet).trans noted
      · rw [heard]
        exact calls
      · rw [heard]
        exact host.congr own callbacks

/-- Observations of different kinds that are taken note of one after
another. -/
theorem TakesNote.cons (first : TakesNote backend rest s [observation] t)
    (others : TakesNote backend rest t observations u)
    (different : ∀ other ∈ observations, observation.kind ≠ other.kind) :
    TakesNote backend rest s (observation :: observations) u := by
  have device : t.device = s.device.store observation := first.device
  have news : s.device.news (observation :: observations) =
      s.device.news [observation] ++ t.device.news observations := by
    rw [device, Device.news_store different, ← Device.news_append]
    rfl
  have heard : s.device.heard (observation :: observations) =
      s.device.heard [observation] ++ t.device.heard observations := by
    rw [device, Device.heard_store different, ← Device.heard_append]
    rfl
  refine ⟨others.sound, ?_, fun discreet => ?_, ?_, ?_⟩
  · rw [others.device, device]
    rfl
  · have same : (t.device.news observations).map (fun observation =>
          (t.device.name, observation.changeOf t.device)) =
        (t.device.news observations).map fun observation =>
          (s.device.name, observation.changeOf s.device) := by
      refine List.map_congr_left fun other among => ?_
      have distinct := different other (List.mem_filter.mp among).1
      rw [device, Device.name_store, Device.changeOf_store distinct]
    rw [others.changes discreet, first.changes discreet, news, same,
      List.map_append, List.append_assoc]
  · rw [others.calls, first.calls, heard, List.append_assoc]
  · rw [heard]
    refine first.host.append (others.host.congr ?_ ?_)
    · rw [device, Device.id_store]
    · rw [device, Device.store_callback]

theorem forM_notify_takesNote (answers : backend.Answers)
    (different : observations.Pairwise fun a b => a.kind ≠ b.kind)
    (sound : s.manager.Sound backend (s.device :: rest))
    (registered : s.device.isRegistered = true)
    (returned : outcome (observations.forM (notify backend)) s =
      (.ok (), t)) :
    TakesNote backend rest s observations t := by
  induction observations generalizing s with
  | nil =>
    cases returned
    exact ⟨sound, rfl, fun _ => (List.append_nil _).symm,
      (List.append_nil _).symm, .done _⟩
  | cons observation observations ih =>
    obtain ⟨apart, later⟩ := List.pairwise_cons.mp different
    rw [List.forM] at returned
    obtain ⟨⟨⟩, u, first, others⟩ := outcome_bind_ok returned
    have noted := notify_takesNote answers sound registered first
    have still : u.device.isRegistered = true := by
      rw [noted.device]
      exact (s.device.store_isRegistered observation).trans registered
    exact noted.cons (ih later noted.sound still others) apart

/-- Nothing happens when all observations are known. -/
theorem forM_notify_known (registered : s.device.isRegistered = true)
    (known : ∀ observation ∈ observations,
      s.device.observed observation.kind = some observation) :
    outcome (observations.forM (notify backend)) s = (.ok (), s) := by
  induction observations with
  | nil => rfl
  | cons observation observations ih =>
    obtain ⟨first, others⟩ := List.forall_mem_cons.mp known
    rw [List.forM, outcome_bind,
      outcome_notify_known backend s registered first]
    exact ih others

/-! ## Refreshes -/

/-- What a query has found is of three kinds. -/
theorem findings_differ (devName : String) (state : LinkState) :
    (findings devName state).Pairwise fun a b => a.kind ≠ b.kind := by
  simp [findings, Observation.kind]

section Refreshes

variable (answers : backend.Answers)
  (sound : s.manager.Sound backend (s.device :: rest))
include answers sound

/-- A refresh fails with its query, and nothing but the session has
changed. -/
theorem refresh_error {e : Error}
    (failed : outcome (refresh backend) s = (.error (.error e), t)) :
    ∃ session,
      outcome (s.device.query backend) s.manager =
        (.error (.error e), s.manager.withSession session) ∧
      t = { s with manager := s.manager.withSession session } ∧
      (backend.Discreet →
        session.changes = s.manager.session.changes) := by
  obtain ⟨session, unreported, sound', ⟨e', querying, failing⟩ |
    ⟨devName, state, -, left⟩⟩ := refresh_queried answers sound
  · rw [failing] at failed
    cases failed
    exact ⟨session, querying, rfl, unreported⟩
  · -- Notifications do not fail.
    obtain ⟨result, u, notifying, inTurn⟩ := forM_notify_inTurn answers
      (s := { s with manager := s.manager.withSession session }) sound'
      (findings devName state)
    rw [left, notifying] at failed
    cases failed
    rcases inTurn.ended with returned | ⟨message, panicked, -⟩
    · cases returned
    · cases panicked

/-- After a refresh without failure the device has taken note of what the
query has found. -/
theorem refresh_ok (refreshed : outcome (refresh backend) s = (.ok (), t)) :
    ∃ devName state session,
      outcome (s.device.query backend) s.manager =
        (.ok (devName, state), s.manager.withSession session) ∧
      (backend.Discreet →
        session.changes = s.manager.session.changes) ∧
      TakesNote backend rest
        { s with manager := s.manager.withSession session }
        (findings devName state) t := by
  obtain ⟨session, unreported, sound', ⟨e, -, failing⟩ |
    ⟨devName, state, querying, left⟩⟩ := refresh_queried answers sound
  · rw [failing] at refreshed
    cases refreshed
  · rw [left] at refreshed
    exact ⟨devName, state, session, querying, unreported,
      forM_notify_takesNote answers (findings_differ devName state) sound'
        (Device.isRegistered_of_query querying) refreshed⟩

/-- A refresh that finds nothing new changes nothing but the session. -/
theorem refresh_known
    (known : ∀ devName state m,
      outcome (s.device.query backend) s.manager =
        (.ok (devName, state), m) →
      ∀ observation ∈ findings devName state,
        s.device.observed observation.kind = some observation) :
    ∃ session,
      (outcome (refresh backend) s).2 =
        { s with manager := s.manager.withSession session } ∧
      (backend.Discreet →
        session.changes = s.manager.session.changes) := by
  obtain ⟨session, unreported, -, ⟨e, -, failing⟩ |
    ⟨devName, state, querying, left⟩⟩ := refresh_queried answers sound
  · exact ⟨session, congrArg Prod.snd failing, unreported⟩
  · have idle : outcome ((findings devName state).forM (notify backend))
        { s with manager := s.manager.withSession session } = (.ok (), _) :=
      forM_notify_known (Device.isRegistered_of_query querying)
        (known devName state _ querying)
    exact ⟨session, congrArg Prod.snd (left.trans idle), unreported⟩

end Refreshes

end DeviceState

end InterfaceManager

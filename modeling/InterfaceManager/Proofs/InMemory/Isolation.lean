import InterfaceManager.Proofs.Device.Agreement
import InterfaceManager.Proofs.InMemory.Devices

/-!
# Calls stay in the namespaces of their devices

A run of a fleet on a host in memory, with all its calls on record.  Between
the steps the thread is in the namespaces that could not be left, so that the
record tells where the next calls on interfaces are made: those of a device
in its own namespace, and those of a device without one wherever the thread
has been left behind.
-/

namespace InterfaceManager

open InterfaceManager.Action
open BackendEvent (requests stranded)
open MemoryHost (Traced Worked)

/-- The step does not move the probe, and no callback that it sets does. -/
def FleetStep.keepsProbe : FleetStep MemoryHost.Adjustment → Bool
  | adjust change => change.keepsProbe
  | operate _ operation => operation.keepsProbe
  | _ => true

namespace Fleet

def operated? (f : Fleet η ε) : FleetStep ε → Option (Device ε)
  | .operate label _ => f.devices.at? label
  | _ => none

def workplace (f : Fleet η ε) (next : FleetStep ε) : String :=
  ((f.operated? next).map Device.netnsKey).getD ""

def host (f : Fleet η ε) : η := f.manager.session.host

/-! ## Steps -/

/-- What holds between the steps of a run. -/
structure Placed (f : Fleet Traced MemoryHost.Adjustment) : Prop where
  sound : f.Sound MemoryHost.backend.recorded
  faithful : f.manager.pool.Faithful f.manager.contexts
  current : f.host.host.probe = .current
  stack : f.host.host.namespaces.stack = (stranded f.host.calls).reverse
  keepsProbe : ∀ d ∈ f.live, d.KeepsProbe

/-- From `f` to `g` there has been work for `netns`, and the next step finds
what it needs. -/
structure Advances (netns : String)
    (f g : Fleet Traced MemoryHost.Adjustment) : Prop where
  worked : Worked netns f.host g.host
  faithful : g.manager.pool.Faithful g.manager.contexts
  keepsProbe : ∀ d ∈ g.live, d.KeepsProbe

variable {f g : Fleet Traced MemoryHost.Adjustment}
  {next : FleetStep MemoryHost.Adjustment}

theorem Placed.refl (placed : f.Placed) (netns : String) :
    f.Advances netns f :=
  ⟨.refl _ _, placed.faithful, placed.keepsProbe⟩

/-- Where the calls for a namespace are made. -/
theorem Placed.place_eq (placed : f.Placed) (netns : String) :
    f.host.host.traffic.place netns =
      if netns = "" then (stranded f.host.calls).getLast?.getD ""
      else netns := by
  simp [Traffic.place, MemoryHost.traffic, placed.stack]

/-- A device that is allocated replaces none, or one that is freed. -/
theorem Placed.allocate (placed : f.Placed) (label name : String) :
    let g := (outcome (step MemoryHost.backend.recorded
      (.allocate label name)) f).2
    f.Advances "" g ∧ g.host = f.host := by
  intro g
  have quiet : (f.manager.allocated name).Quiet f.host :=
    ⟨rfl, placed.faithful⟩
  have keeps : ∀ m : Manager Traced,
      ∀ d ∈ ({ f with
        manager := m
        devices := f.devices.put label (f.nextDevice name) } :
          Fleet Traced MemoryHost.Adjustment).live, d.KeepsProbe := by
    intro m d hd
    rcases List.mem_cons.mp hd with rfl | other
    · exact .fresh _ _
    · exact placed.keepsProbe d (mem_live_of_mem_others other)
  rcases found : f.devices.at? label with _ | old
  · have allocating : g = _ := congrArg Prod.snd
      (outcome_step_allocate found name)
    rw [allocating]
    exact ⟨⟨.refl _ _, quiet.2, keeps _⟩, rfl⟩
  · have books : (f.manager.allocated name).Sound
        MemoryHost.backend.recorded
        (old :: f.nextDevice name :: f.others label) :=
      ((placed.sound.select found).allocate name).of_perm (.swap _ _ _)
    obtain ⟨m, freeing, -⟩ := Manager.free_succeeds books
    have freed := Manager.free_keeps (Manager.bookkept_quiet f.host) old _ quiet
    rw [freeing] at freed
    have allocating : g = _ := congrArg Prod.snd
      (outcome_step_allocate_again found freeing)
    rw [allocating]
    refine ⟨⟨?_, freed.2, keeps _⟩, freed.1⟩
    exact freed.1 ▸ .refl "" f.host

theorem Placed.free (placed : f.Placed) (label : String) :
    let g := (outcome (step MemoryHost.backend.recorded (.free label)) f).2
    f.Advances "" g ∧ g.host = f.host := by
  intro g
  rcases found : f.devices.at? label with _ | device
  · have unchanged : g = f := congrArg Prod.snd
      (outcome_step_free_missing found)
    rw [unchanged]
    exact ⟨placed.refl "", rfl⟩
  · obtain ⟨m, freeing, -⟩ :=
      Manager.free_succeeds (placed.sound.select found)
    have freed := Manager.free_keeps (Manager.bookkept_quiet f.host) device
      f.manager ⟨rfl, placed.faithful⟩
    rw [freeing] at freed
    have left : g = _ := congrArg Prod.snd (outcome_step_free found freeing)
    rw [left]
    refine ⟨⟨?_, freed.2, ?_⟩, freed.1⟩
    · exact freed.1 ▸ .refl "" f.host
    · intro d hd
      exact placed.keepsProbe d (mem_live_of_mem_others hd)

/-- A device of the fleet finds what its operations rely on. -/
theorem Placed.settled (placed : f.Placed) {label : String}
    {device : Device MemoryHost.Adjustment}
    (found : f.devices.at? label = some device) :
    (f.working device).Settled := by
  have books := placed.sound.select found
  have live : device ∈ f.live :=
    (live_perm placed.sound found).mem_iff.mpr List.mem_cons_self
  exact {
    current := placed.current
    sound := books.leased.sound
    faithful := placed.faithful
    held := books.leased.held device List.mem_cons_self
    keepsProbe := placed.keepsProbe device live }

theorem Placed.operate (placed : f.Placed) {label : String}
    {device : Device MemoryHost.Adjustment}
    (found : f.devices.at? label = some device)
    {operation : DeviceOperation MemoryHost.Adjustment}
    (keeps : operation.keepsProbe = true) :
    f.Advances device.netnsKey (outcome
      (step MemoryHost.backend.recorded (.operate label operation)) f).2 := by
  have performs :=
    DeviceState.perform_performs (placed.settled found) keeps
  rw [outcome_step_operate found]
  refine ⟨performs.worked, performs.faithful, ?_⟩
  intro d hd
  rcases List.mem_cons.mp hd with rfl | other
  · exact performs.keepsProbe
  · exact placed.keepsProbe d (mem_live_of_mem_others other)

/-- A step works for the device that it operates on, and otherwise makes no
calls. -/
theorem step_advances (placed : f.Placed) (keeps : next.keepsProbe = true) :
    let g := (outcome (step MemoryHost.backend.recorded next) f).2
    f.Advances (f.workplace next) g ∧
      (f.operated? next = none →
        g.host.calls = f.host.calls ∧
        g.host.host.traffic = f.host.host.traffic) := by
  intro g
  cases next with
  | allocate label name =>
    obtain ⟨advances, same⟩ := placed.allocate label name
    exact ⟨advances, fun _ => same ▸ ⟨rfl, rfl⟩⟩
  | free label =>
    obtain ⟨advances, same⟩ := placed.free label
    exact ⟨advances, fun _ => same ▸ ⟨rfl, rfl⟩⟩
  | operate label operation =>
    rcases found : f.devices.at? label with _ | device
    · have unchanged : g = f := congrArg Prod.snd
        (outcome_step_missing found operation)
      rw [unchanged]
      exact ⟨placed.refl _, fun _ => ⟨rfl, rfl⟩⟩
    · have advances := placed.operate found keeps
      refine ⟨?_, fun idle => ?_⟩
      · rw [workplace, operated?, found]
        exact advances
      · rw [operated?, found] at idle
        cases idle
  | adjust change =>
    have traffic := MemoryHost.traffic_adjust f.host.host keeps
    have adjusting : g = _ := congrArg Prod.snd
      (outcome_step_adjust change f)
    rw [adjusting]
    refine ⟨⟨?_, placed.faithful, placed.keepsProbe⟩, fun _ => ⟨rfl, ?_⟩⟩
    · exact .of_adjust traffic
    · exact traffic

/-- Between the steps the stack holds the namespaces that could not be
left. -/
theorem step_placed (placed : f.Placed) (keeps : next.keepsProbe = true) :
    (outcome (step MemoryHost.backend.recorded next) f).2.Placed := by
  have answers : MemoryHost.backend.recorded.Answers :=
    MemoryHost.backend_calm.answers.recorded
  obtain ⟨result, g, stepping, follows, -⟩ :=
    step_follows answers placed.sound next
  obtain ⟨advances, -⟩ := step_advances placed keeps
  rw [stepping] at advances ⊢
  obtain ⟨new, calls, traffic, -⟩ := advances.worked
  refine ⟨follows.sound, advances.faithful,
    advances.worked.probe_eq.trans placed.current, ?_, advances.keepsProbe⟩
  have stack : g.host.host.namespaces.stack =
      (stranded new).reverse ++ f.host.host.namespaces.stack :=
    congrArg Traffic.stack traffic
  rw [stack, placed.stack, calls, BackendEvent.stranded_append,
    List.reverse_append]

/-! ## Runs -/

theorem placed_start {host : MemoryHost}
    (outside : host.namespaces.stack = []) (current : host.probe = .current) :
    (start ⟨host, []⟩ : Fleet Traced MemoryHost.Adjustment).Placed where
  sound := sound_start _ _
  faithful := .empty _
  current := current
  stack := outside
  keepsProbe := by
    intro d hd
    cases hd

theorem run_placed (placed : f.Placed)
    {steps : List (FleetStep MemoryHost.Adjustment)}
    (keeps : ∀ next ∈ steps, next.keepsProbe = true) :
    (run MemoryHost.backend.recorded f steps).Placed := by
  induction steps generalizing f with
  | nil => exact placed
  | cons next steps ih =>
    have stepped := step_placed placed (keeps next List.mem_cons_self)
    exact ih stepped fun later h => keeps later (List.mem_cons_of_mem _ h)

/-- The calls on interfaces that the steps of a run make, each with the
namespace of the device that makes it. -/
def issued (f : Fleet Traced MemoryHost.Adjustment) :
    List (FleetStep MemoryHost.Adjustment) → List LinkCall
  | [] => []
  | next :: steps =>
    let g := (outcome (step MemoryHost.backend.recorded next) f).2
    let made := requests (g.host.calls.drop f.host.calls.length)
    made.map (fun request => ⟨f.workplace next, request⟩) ++ issued g steps

/-- As long as every namespace is left, every call is recorded with the
namespace of its device. -/
theorem calls_eq_issued (placed : f.Placed)
    {steps : List (FleetStep MemoryHost.Adjustment)}
    (keeps : ∀ next ∈ steps, next.keepsProbe = true)
    (returned : stranded
      (run MemoryHost.backend.recorded f steps).host.calls = []) :
    stranded f.host.calls = [] ∧
      (run MemoryHost.backend.recorded f steps).host.host.links.calls =
        f.host.host.links.calls ++ issued f steps := by
  induction steps generalizing f with
  | nil => exact ⟨returned, (List.append_nil _).symm⟩
  | cons next steps ih =>
    have hkeeps := keeps next List.mem_cons_self
    have stepped := step_placed placed hkeeps
    obtain ⟨advances, -⟩ := step_advances placed hkeeps
    obtain ⟨new, calls, traffic, -⟩ := advances.worked
    obtain ⟨back, rest⟩ := ih stepped
      (fun later h => keeps later (List.mem_cons_of_mem _ h)) returned
    rw [calls, BackendEvent.stranded_append, List.append_eq_nil_iff] at back
    have place : f.host.host.traffic.place (f.workplace next) =
        f.workplace next := by
      rw [placed.place_eq, back.1]
      split
      · next default => exact default.symm
      · rfl
    have made : (outcome (step MemoryHost.backend.recorded next)
        f).2.host.host.links.calls = f.host.host.links.calls ++
          (requests new).map fun request => ⟨f.workplace next, request⟩ := by
      have after := congrArg Traffic.calls traffic
      rw [Traffic.after, place] at after
      exact after
    refine ⟨back.1, ?_⟩
    rw [run_cons, rest, made, issued, calls, List.drop_left,
      List.append_assoc]

/-- In every run on a host in memory whose probe stays where the thread is,
the stack holds between the steps exactly the namespaces that could not be
left.  Every call on interfaces is recorded once, with the namespace of the
device that makes it, or for a device without one with the namespace that
could not be left last; the steps without a device make none.  So if every
namespace could be left, each call is recorded with the namespace of its
device.  Putting the calls on record does not change the run. -/
theorem run_isolates_calls {host : MemoryHost}
    (outside : host.namespaces.stack = []) (current : host.probe = .current)
    (steps : List (FleetStep MemoryHost.Adjustment))
    (keeps : ∀ next ∈ steps, next.keepsProbe = true) :
    let f := run MemoryHost.backend.recorded (start ⟨host, []⟩) steps
    let past := f.host.calls
    f.onto Recorded.host = run MemoryHost.backend (start host) steps ∧
    f.host.host.namespaces.stack.reverse = stranded past ∧
    (∀ next d, next.keepsProbe = true → f.operated? next = some d →
      let g := (outcome (step MemoryHost.backend.recorded next) f).2
      ∃ new, g.host.calls = past ++ new ∧
        (d.netnsKey = "" → stranded new = []) ∧
        g.host.host.links.calls = f.host.host.links.calls ++
          (requests new).map fun request =>
            ⟨if d.netnsKey = "" then (stranded past).getLast?.getD ""
              else d.netnsKey, request⟩) ∧
    (∀ next, next.keepsProbe = true → f.operated? next = none →
      let g := (outcome (step MemoryHost.backend.recorded next) f).2
      g.host.calls = past ∧
        g.host.host.links.calls = f.host.host.links.calls) ∧
    (stranded past = [] →
      f.host.host.links.calls =
        host.links.calls ++ issued (start ⟨host, []⟩) steps) := by
  intro f past
  have start_placed := placed_start outside current
  have placed : f.Placed := run_placed start_placed keeps
  refine ⟨run_onto (Backend.recorded_mirrors _) _ steps, ?_, ?_, ?_, ?_⟩
  · rw [placed.stack, List.reverse_reverse]
  · intro next d hnext operated g
    obtain ⟨advances, -⟩ := step_advances placed hnext
    have workplace : f.workplace next = d.netnsKey := by
      rw [Fleet.workplace, operated]
      rfl
    rw [workplace] at advances
    obtain ⟨new, calls, traffic, unswitched⟩ := advances.worked
    refine ⟨new, calls, unswitched, ?_⟩
    have after := congrArg Traffic.calls traffic
    rw [Traffic.after, placed.place_eq] at after
    exact after
  · intro next hnext idle g
    obtain ⟨-, unchanged⟩ := step_advances placed hnext
    obtain ⟨calls, traffic⟩ := unchanged idle
    exact ⟨calls, congrArg Traffic.calls traffic⟩
  · intro returned
    exact (calls_eq_issued start_placed keeps returned).2

/-- A device cannot leave its namespace, and another one, without a
namespace, selects an interface. -/
def strandThread : List (FleetStep MemoryHost.Adjustment) :=
  shareTunnel ++
    [.adjust (.failExit "ns"), .operate "a" (.bringUpDown true),
      .allocate "c" "third", .operate "c" (.setIfindex ⟨5⟩)]

theorem calls_after_strandThread :
    let f := run MemoryHost.backend.recorded (start ⟨tunnelHost, []⟩)
      strandThread
    let next := FleetStep.operate "c" .register
    let g := (outcome (step MemoryHost.backend.recorded next) f).2
    tunnelHost.namespaces.stack = [] ∧ tunnelHost.probe = .current ∧
    (∀ next ∈ strandThread, next.keepsProbe = true) ∧
    next.keepsProbe = true ∧
    (∃ d, f.operated? next = some d ∧ d.netnsKey = "") ∧
    stranded f.host.calls = ["ns"] ∧
    g.host.host.links.calls = f.host.host.links.calls ++
      [⟨"ns", .resolveName ⟨5⟩⟩] := by
  intro f next g
  have keeps : ∀ next ∈ strandThread, next.keepsProbe = true := by decide
  have outside : tunnelHost.namespaces.stack = [] := rfl
  obtain ⟨-, -, calls, -, -⟩ :=
    run_isolates_calls outside rfl strandThread keeps
  let d : Device MemoryHost.Adjustment :=
    { Device.fresh ⟨2⟩ "third" with ifindex := ⟨5⟩ }
  have operated : f.operated? next = some d := by rfl
  have left_behind : stranded f.host.calls = ["ns"] := by rfl
  obtain ⟨new, recorded, -, made⟩ := calls next d rfl operated
  have requested : requests (g.host.calls.drop f.host.calls.length) =
      [.resolveName ⟨5⟩] := by rfl
  refine ⟨outside, rfl, keeps, rfl, ⟨d, operated, rfl⟩, left_behind, ?_⟩
  rw [recorded, List.drop_left] at requested
  rw [left_behind, requested] at made
  exact made

end Fleet

end InterfaceManager

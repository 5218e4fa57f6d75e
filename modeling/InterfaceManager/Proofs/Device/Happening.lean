import InterfaceManager.Proofs.Device.Observation

/-!
# What happens to a device

A device is registered and unregistered, values are notified to it, and
callbacks are set.  From these happenings alone it can be told what the
device knows of its interface, which callbacks it has, and which of them
have been called: for a value that came when the device was registered, a
callback of the kind was set, and the value was not the one that the device
knew.  What a device knows does not depend on its callbacks.
-/

namespace InterfaceManager

/-- The instruction ends everything in progress. -/
def Instruction.isPanic : Instruction ε → Bool
  | panic _ => true
  | _ => false

/-- Something that happens to a device. -/
inductive Happening (ε : Type) where
  /-- The device was registered on an interface of this name. -/
  | registered (devName : String)
  | unregistered
  | notified (observation : Observation)
  | installed (kind : ObservationKind) (callback : Option (Callback ε))

/-- A call of a callback: for which observation, and what the device knew of
its interface meanwhile. -/
structure Heard where
  observation : Observation
  known : ObservationKind → Option Observation

/-- What a report says about the calls for a device. -/
def Report.heardBy (id : DeviceId) : Report ε → Option Heard
  | called observation device =>
    if device.id = id then some ⟨observation, device.observed⟩ else none
  | _ => none

theorem Report.heardBy_of_silent (id : DeviceId) (r : Report ε)
    (silent : r.call? = none) : r.heardBy id = none := by
  cases r with
  | called observation device => cases silent
  | followed result => rfl
  | saw names => rfl

namespace Happening

/-! The happenings of the past are listed with the latest one first. -/

def isRegistered : List (Happening ε) → Bool
  | [] => false
  | registered _ :: _ => true
  | unregistered :: _ => false
  | _ :: past => isRegistered past

/-- The value of a kind that the device knows: the one notified last since it
was registered, and before that of the name the one it was registered with. -/
def latest (kind : ObservationKind) :
    List (Happening ε) → Option Observation
  | [] => none
  | registered devName :: _ =>
    if kind = .devName then some (.devName devName) else none
  | unregistered :: _ => none
  | notified observation :: past =>
    if isRegistered past = true ∧ observation.kind = kind
    then some observation else latest kind past
  | installed _ _ :: past => latest kind past

/-- The callback for a kind of observation that was set last. -/
def current (kind : ObservationKind) :
    List (Happening ε) → Option (Callback ε)
  | [] => none
  | installed other callback :: past =>
    if other = kind then callback else current kind past
  | _ :: past => current kind past

/-- What the device knows while the callback for an observation runs: the new
value already, but of the name still the old one. -/
def meanwhile (past : List (Happening ε)) (observation : Observation) :
    ObservationKind → Option Observation :=
  if observation.kind = .devName then fun kind => latest kind past
  else fun kind => latest kind (notified observation :: past)

/-- The calls for an observation after what has happened before. -/
def calls (past : List (Happening ε)) (observation : Observation) :
    List Heard :=
  if isRegistered past = true ∧ (current observation.kind past).isSome = true ∧
    latest observation.kind past ≠ some observation
  then [⟨observation, meanwhile past observation⟩] else []

/-- All calls of callbacks of the device, in order. -/
def heard : List (Happening ε) → List Heard
  | [] => []
  | notified observation :: past => heard past ++ calls past observation
  | _ :: past => heard past

theorem mem_of_current {kind : ObservationKind} {callback : Callback ε}
    {past : List (Happening ε)} (set : current kind past = some callback) :
    installed kind (some callback) ∈ past := by
  induction past with
  | nil => cases set
  | cons happening past ih =>
    cases happening with
    | installed other replaced =>
      by_cases same : other = kind
      · rw [current, if_pos same] at set
        rw [same, set]
        exact List.mem_cons_self
      · rw [current, if_neg same] at set
        exact List.mem_cons_of_mem _ (ih set)
    | _ => exact List.mem_cons_of_mem _ (ih set)

end Happening

/-! ## What a device is like -/

namespace Device

open DeviceState (Heeds)
open Happening (latest current)

variable {d : Device ε} {past : List (Happening ε)}

theorem observed_setCallback (d : Device ε) (callback : Option (Callback ε))
    (kind : ObservationKind) :
    (d.setCallback callback kind).observed = d.observed := by
  cases kind <;> rfl

theorem observed_store (d : Device ε) (observation : Observation)
    (kind : ObservationKind) :
    (d.store observation).observed kind =
      if observation.kind = kind then some observation
      else d.observed kind := by
  cases observation <;> cases kind <;> rfl

theorem callback_setCallback (d : Device ε)
    (callback : Option (Callback ε)) (kind other : ObservationKind) :
    (d.setCallback callback kind).callback other =
      if kind = other then callback else d.callback other := by
  cases kind <;> cases other <;> rfl

/-- The device is like what has happened to it. -/
structure Matches (d : Device ε) (past : List (Happening ε)) : Prop where
  registered : d.isRegistered = Happening.isRegistered past
  observed : ∀ kind, d.observed kind = latest kind past
  callback : ∀ kind, d.callback kind = current kind past

namespace Matches

theorem fresh (id : DeviceId) (name : String) :
    (Device.fresh id name : Device ε).Matches [] where
  registered := rfl
  observed kind := by cases kind <;> rfl
  callback kind := by cases kind <;> rfl

/-- What is neither known by the device nor one of its callbacks does not
matter. -/
theorem congr (fits : d.Matches past) {e : Device ε}
    (registered : e.isRegistered = d.isRegistered)
    (observed : e.observed = d.observed) (callback : e.callback = d.callback) :
    e.Matches past where
  registered := registered.trans fits.registered
  observed kind := (congrFun observed kind).trans (fits.observed kind)
  callback kind := (congrFun callback kind).trans (fits.callback kind)

theorem attached (fits : d.Matches past) (coherent : d.Coherent)
    (unbound : d.context = none) (context : Context) (devName : String) :
    (d.attached context devName).Matches (.registered devName :: past) where
  registered := rfl
  observed kind := by
    obtain ⟨up, mtu⟩ := coherent.forgotten unbound
    cases kind with
    | devName => rfl
    | upDown => exact congrArg (Option.map Observation.upDown) up
    | mtu => exact congrArg (Option.map Observation.mtu) mtu
  callback := fits.callback

theorem detached (fits : d.Matches past) :
    d.detached.Matches (.unregistered :: past) where
  registered := rfl
  observed kind := by cases kind <;> rfl
  callback := fits.callback

theorem setCallback (fits : d.Matches past) (kind : ObservationKind)
    (callback : Option (Callback ε)) :
    (d.setCallback callback kind).Matches (.installed kind callback :: past)
    where
  registered := by
    rw [Device.isRegistered, setCallback_context]
    exact fits.registered
  observed other := by
    rw [observed_setCallback]
    exact fits.observed other
  callback other := by
    rw [callback_setCallback, current, fits.callback]

/-- A device that takes no note of an observation is as it was. -/
theorem unheeded (fits : d.Matches past) {observation : Observation}
    (ignores : ¬ Heeds d observation) :
    d.Matches (.notified observation :: past) where
  registered := fits.registered
  observed kind := by
    rw [latest, fits.observed]
    split
    · next taken =>
      obtain ⟨registered, same⟩ := taken
      subst same
      rw [← fits.observed]
      by_contra new
      exact ignores ⟨fits.registered.trans registered, new⟩
    · rfl
  callback := fits.callback

theorem store (fits : d.Matches past) (registered : d.isRegistered = true)
    (observation : Observation) :
    (d.store observation).Matches (.notified observation :: past) where
  registered := by
    rw [store_isRegistered]
    exact fits.registered
  observed kind := by
    have known : Happening.isRegistered past = true :=
      fits.registered.symm.trans registered
    rw [observed_store, latest, fits.observed]
    simp only [known, true_and]
  callback kind := by
    rw [store_callback]
    exact fits.callback kind

end Matches

/-- A device that is like what has happened to it heeds just what is new. -/
theorem Matches.heeds_iff (fits : d.Matches past) (observation : Observation) :
    Heeds d observation ↔ Happening.isRegistered past = true ∧
      latest observation.kind past ≠ some observation := by
  rw [← fits.registered, ← fits.observed]
  constructor
  · rintro ⟨registered, new⟩
    exact ⟨registered, new⟩
  · rintro ⟨registered, new⟩
    exact ⟨registered, new⟩

end Device

namespace Happening

variable {past : List (Happening ε)}

/-- The happening sets no callback that panics. -/
def isPeaceful : Happening ε → Bool
  | installed _ (some callback) => !callback.any Instruction.isPanic
  | _ => true

/-- None of the callbacks ever set panics. -/
def Peaceful (past : List (Happening ε)) : Prop :=
  ∀ happening ∈ past, happening.isPeaceful = true

instance (past : List (Happening ε)) : Decidable (Peaceful past) :=
  inferInstanceAs (Decidable (∀ happening ∈ past, happening.isPeaceful = true))

theorem Peaceful.notified (peaceful : Peaceful past)
    (observation : Observation) : Peaceful (.notified observation :: past) := by
  intro happening known
  rcases List.mem_cons.mp known with rfl | earlier
  · rfl
  · exact peaceful happening earlier

theorem Peaceful.not_mayPanic (peaceful : Peaceful past) {d : Device ε}
    (fits : d.Matches past) (message : String) : ¬ d.MayPanic message := by
  rintro ⟨kind, callback, set, panics⟩
  rw [fits.callback] at set
  have calm := peaceful _ (mem_of_current set)
  rw [isPeaceful, Bool.not_eq_true', List.any_eq_false] at calm
  exact calm _ panics rfl

theorem calls_of_unheeded {d : Device ε} (fits : d.Matches past)
    {observation : Observation}
    (ignores : ¬ DeviceState.Heeds d observation) :
    calls past observation = [] := by
  rw [fits.heeds_iff] at ignores
  rw [calls, if_neg]
  rintro ⟨registered, -, new⟩
  exact ignores ⟨registered, new⟩

theorem calls_of_heeds {d : Device ε} (fits : d.Matches past)
    {observation : Observation} (heeds : DeviceState.Heeds d observation) :
    calls past observation =
      if (d.callback observation.kind).isSome = true
      then [⟨observation, meanwhile past observation⟩] else [] := by
  obtain ⟨registered, new⟩ := (fits.heeds_iff observation).mp heeds
  have applies : (isRegistered past = true ∧
      (current observation.kind past).isSome = true ∧
      latest observation.kind past ≠ some observation) ↔
      (current observation.kind past).isSome = true :=
    ⟨fun all => all.2.1, fun set => ⟨registered, set, new⟩⟩
  rw [calls, fits.callback]
  simp only [applies]

end Happening

end InterfaceManager

import InterfaceManager.Proofs.Device.Registration

/-!
# Changes of interfaces keep the books

An operation on the interface of a device changes nothing but the session.
It never ends with a panic, and since the context of a registered device is
open, it is never refused.  No change of a device is reported by it.
-/

namespace InterfaceManager

open InterfaceManager.Action

/-- What may be run inside the namespace of a device without harm. -/
structure Backend.Harmless (backend : Backend η ε)
    (act : Action (Session η) α) : Prop where
  answers : act.Answers
  unrefused : backend.Discreet → act.Keeps Session.Unrefused
  unreported : backend.Discreet → ∀ changes,
    act.Keeps fun s => s.changes = changes

namespace Backend.Harmless

variable {backend : Backend η ε}

theorem pure (a : α) :
    backend.Harmless (Pure.pure a : Action (Session η) α) :=
  ⟨.pure a, fun _ => .pure _ a, fun _ _ => .pure _ a⟩

theorem bind {act : Action (Session η) α} {next : α → Action (Session η) β}
    (hact : backend.Harmless act) (hnext : ∀ a, backend.Harmless (next a)) :
    backend.Harmless (act >>= next) where
  answers := hact.answers.bind fun a => (hnext a).answers
  unrefused discreet :=
    (hact.unrefused discreet).bind fun a => (hnext a).unrefused discreet
  unreported discreet changes :=
    (hact.unreported discreet changes).bind fun a =>
      (hnext a).unreported discreet changes

theorem note {n : Notice} (other : n.isRefusal = false)
    (unchanging : n.change? = none) :
    backend.Harmless (Session.note n : Action (Session η) Unit) where
  answers := .modify _
  unrefused _ := .modify fun _ unrefused => unrefused.noting other
  unreported _ _ := .modify fun _ same =>
    (Session.changes_noting_other unchanging).trans same

/-- The calls of a backend that answers are harmless. -/
theorem of_call {act : Action (Session η) α} (answers : act.Answers)
    (discreet : backend.Discreet → act.Discreet) : backend.Harmless act :=
  ⟨answers, fun h => (discreet h).unrefused, fun h _ s same =>
    (Session.changes_eq_of_remarks_eq (discreet h s)).trans same⟩

end Backend.Harmless

namespace Device

section OnInterface

variable (backend : Backend η ε) {d : Device ε} (operation : String)
  (act : String → Action (Session η) α) (m : Manager η)

theorem outcome_onInterface_unbound (unbound : d.context = none) :
    outcome (d.onInterface backend operation act) m =
      (.error (.error (.notRegistered d.name)), m) := by
  simp [onInterface, unbound]

/-- The span in which the interface of a device is worked on. -/
def visiting (d : Device ε) (context : Context) (devName : String) : Span :=
  ⟨d.name, some devName, d.ifindex, context.name⟩

theorem outcome_onInterface_visiting {context : Context} {devName : String}
    (bound : d.context = some context) (named : d.devName = some devName) :
    outcome (d.onInterface backend operation act) m =
      let ran := outcome
        (Manager.within backend context operation (act devName))
        (m.inside (d.visiting context devName))
      (ran.1, ran.2.outside) := by
  simp only [onInterface, bound, named, Manager.outcome_inSpan]
  rfl

theorem outcome_onInterface_bound {context : Context} {devName : String}
    (bound : d.context = some context) (named : d.devName = some devName) :
    ∃ span : Span,
      outcome (d.onInterface backend operation act) m =
        let ran := outcome
          (Manager.within backend context operation (act devName))
          (m.inside span)
        (ran.1, ran.2.outside) :=
  ⟨_, outcome_onInterface_visiting backend operation act m bound named⟩

end OnInterface

/-- An operation on the interface of a device changes the session alone. -/
theorem onInterface_sound {backend : Backend η ε} (answers : backend.Answers)
    {m : Manager η} {devices : List (Device ε)}
    (sound : m.Sound backend devices) {d : Device ε} (hd : d ∈ devices)
    (operation : String) {act : String → Action (Session η) α}
    (harmless : ∀ devName, backend.Harmless (act devName)) :
    ∃ result t,
      outcome (d.onInterface backend operation act) m =
        (result, m.withSession t) ∧
      (m.withSession t).Sound backend devices ∧
      (backend.Discreet → t.changes = m.session.changes) ∧
      ∀ message, result ≠ .error (.panic message) := by
  rcases hcontext : d.context with _ | context
  · refine ⟨_, m.session,
      outcome_onInterface_unbound backend operation act m hcontext, sound,
      fun _ => rfl, ?_⟩
    simp
  · have hnamed := (sound.coherent d hd).named
    rw [isRegistered_eq_true hcontext, Option.isSome_iff_exists] at hnamed
    obtain ⟨devName, hdevName⟩ := hnamed
    obtain ⟨span, houtcome⟩ :=
      outcome_onInterface_bound backend operation act m hcontext hdevName
    have answered := Manager.within_answers backend context operation answers
      (harmless devName).answers (m.inside span)
    have unrefused : backend.Discreet →
        (outcome (Manager.within backend context operation (act devName))
          (m.inside span)).2.session.Unrefused := by
      intro discreet
      exact Manager.within_keeps_remarks backend context operation discreet
        (I := fun remarks => ∀ netns operation,
          Notice.contextAlreadyClosed netns operation ∉ remarks)
        ((harmless devName).unrefused discreet)
        (sound.leased.isOpen hd hcontext) (sound.unrefused discreet)
    have unreported : backend.Discreet →
        (outcome (Manager.within backend context operation (act devName))
          (m.inside span)).2.session.changes = m.session.changes := by
      intro discreet
      have keeps := (harmless devName).unreported discreet m.session.changes
      simp only [Session.changes_eq] at keeps ⊢
      exact Manager.within_keeps_remarks backend context operation discreet
        (I := fun remarks => remarks.filterMap Notice.change? =
          m.session.remarks.filterMap Notice.change?)
        keeps (sound.leased.isOpen hd hcontext) rfl
    rw [Manager.outcome_within] at houtcome answered unrefused unreported
    exact ⟨_, _, houtcome, sound.withSession unrefused, unreported, answered⟩

/-- Only a registered device gets an answer to a query. -/
theorem isRegistered_of_query {backend : Backend η ε} {d : Device ε}
    {m m' : Manager η} {found : String × LinkState}
    (querying : outcome (d.query backend) m = (.ok found, m')) :
    d.isRegistered = true := by
  cases context : d.context with
  | some context => exact isRegistered_eq_true context
  | none =>
    rw [query, outcome_onInterface_unbound _ _ _ _ context] at querying
    cases querying

section Operations

variable {backend : Backend η ε} (answers : backend.Answers)
include answers

theorem setUp_harmless (devName : String) (up : Bool) :
    backend.Harmless (do
      Session.note (.bringing devName up)
      backend.links.setUp devName up) :=
  .bind (.note rfl rfl) fun _ =>
    .of_call (answers.setUp devName up) fun h => h.setUp devName up

theorem addAddress_harmless (devName : String) (address : Address)
    (length : UInt8) :
    backend.Harmless (do
      Session.note (.addingAddress devName address length)
      backend.links.addAddress devName address length) :=
  .bind (.note rfl rfl) fun _ =>
    .of_call (answers.addAddress devName address length) fun h =>
      h.addAddress devName address length

theorem addRoute_harmless (devName : String) (destination : Address)
    (length : UInt8) (gateway : Option Address) :
    backend.Harmless (do
      Session.note (.addingRoute devName destination length gateway)
      backend.links.addRoute devName destination length gateway) :=
  .bind (.note rfl rfl) fun _ =>
    .of_call (answers.addRoute devName destination length gateway) fun h =>
      h.addRoute devName destination length gateway

theorem query_harmless (ifindex : IfIndex) :
    backend.Harmless (do
      let devName ← backend.links.resolveName ifindex
      let state ← backend.links.linkState devName
      return (devName, state)) :=
  .bind (.of_call (answers.resolveName ifindex) fun h =>
      h.resolveName ifindex) fun devName =>
    .bind (.of_call (answers.linkState devName) fun h =>
        h.linkState devName) fun _ => .pure _

/-- A query changes nothing but the session, and it does not panic. -/
theorem query_sound {m : Manager η} {devices : List (Device ε)}
    (sound : m.Sound backend devices) {d : Device ε} (hd : d ∈ devices) :
    ∃ result t,
      outcome (d.query backend) m = (result, m.withSession t) ∧
      (m.withSession t).Sound backend devices ∧
      (backend.Discreet → t.changes = m.session.changes) ∧
      ∀ message, result ≠ .error (.panic message) :=
  onInterface_sound answers sound hd "refresh_link_state" fun _ =>
    query_harmless answers d.ifindex

end Operations

end Device

end InterfaceManager

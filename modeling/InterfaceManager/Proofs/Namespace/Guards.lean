import InterfaceManager.Proofs.Labelled
import InterfaceManager.Proofs.Mirror
import InterfaceManager.Proofs.Namespace.Scope

/-!
# Scopes as guards

Who enters a scope holds a guard, and may end it in any order with others:
by leaving the scope, by dropping it, or by putting another scope in its
place.  A usage is anything that can be done with guards, with runs inside
namespaces in between, each of which has a guard of its own.

A switch is live while a guard holds it.  What is kept by entering and
leaving, given the live switches, is kept at every point of every usage.
-/

namespace InterfaceManager

open InterfaceManager.Action

/-- A host with the guards that are alive, each under a label. -/
structure Guarded (η : Type) where
  host : η
  guards : Labelled Scope

namespace Session

def unguarded (s : Session (Guarded η)) : Session η :=
  ⟨s.host.host, s.journal⟩

def guarding (s : Session η) (guards : Labelled Scope) :
    Session (Guarded η) :=
  ⟨⟨s.host, guards⟩, s.journal⟩

@[simp] theorem unguarded_guarding (s : Session η)
    (guards : Labelled Scope) : (s.guarding guards).unguarded = s := rfl

@[simp] theorem guards_guarding (s : Session η) (guards : Labelled Scope) :
    (s.guarding guards).host.guards = guards := rfl

end Session

/-- A provider that works on a host beside guards. -/
def NamespaceProvider.besideGuards (provider : NamespaceProvider η) :
    NamespaceProvider (Guarded η) where
  openHandle name := Action.focus Session.unguarded
    (fun t s => t.guarding s.host.guards) (provider.openHandle name)
  enter handle := Action.focus Session.unguarded
    (fun t s => t.guarding s.host.guards) (provider.enter handle)
  exit state := Action.focus Session.unguarded
    (fun t s => t.guarding s.host.guards) (provider.exit state)

namespace Scope

def switches (scope : Scope) : List SwitchState := scope.saved.toList

/-- Enters a scope and keeps its guard under a label.  A guard that was
there is dropped after the new scope has been entered. -/
def enterUnder (provider : NamespaceProvider η) (label : String)
    (context : Context) (handle : Option Handle) (operation : String) :
    Action (Session (Guarded η)) Unit := do
  let scope ← Scope.enter provider.besideGuards context handle operation
  let replaced ← modifyGet fun s =>
    (s.host.guards.at? label,
      s.unguarded.guarding (s.host.guards.put label scope))
  match replaced with
  | some old => old.drop provider.besideGuards
  | none => return ()

/-- Takes the guard under a label and ends it in the given way, by leaving or
by dropping its scope. -/
def endUnder (label : String)
    (ending : Scope → Action (Session (Guarded η)) Unit) :
    Action (Session (Guarded η)) Unit := do
  let held ← modifyGet fun s =>
    (s.host.guards.at? label,
      s.unguarded.guarding (s.host.guards.without label))
  match held with
  | some scope => ending scope
  | none => return ()

end Scope

/-! ## Usages -/

/-- What a program does with guards.  Every operation goes on with the way in
which it ended. -/
inductive Usage (η ε α : Type) where
  | finish (answer : Outcome α)
  | look (next : η → Usage η ε α)
  /-- Something happens to the host from outside. -/
  | adjust (change : ε) (next : Usage η ε α)
  | enter (label : String) (context : Context) (handle : Option Handle)
      (operation : String) (next : Outcome Unit → Usage η ε α)
  | exit (label : String) (next : Outcome Unit → Usage η ε α)
  | drop (label : String) (next : Outcome Unit → Usage η ε α)
  | run (context : Context) (handle : Option Handle) (operation : String)
      (inner : Usage η ε α) (next : Outcome α → Usage η ε α)

/-- Where usages take place: a provider, what can be seen of its host, and
what may happen to that. -/
structure Stage (η ε θ : Type) where
  provider : NamespaceProvider θ
  see : θ → η
  adjust : θ → ε → θ

namespace Usage

/-- Carries a usage out. -/
def perform (stage : Stage η ε θ) :
    Usage η ε α → Action (Session (Guarded θ)) α
  | finish answer => Action.ofOutcome answer
  | look next => do perform stage (next (stage.see (← get).host.host))
  | adjust change next => do
    modify fun s =>
      { s with
        host := { s.host with host := stage.adjust s.host.host change } }
    perform stage next
  | enter label context handle operation next => do
    let answer ← Action.attempt <|
      Scope.enterUnder stage.provider label context handle operation
    perform stage (next answer)
  | exit label next => do
    let answer ← Action.attempt <|
      Scope.endUnder label fun scope => scope.exit stage.provider.besideGuards
    perform stage (next answer)
  | drop label next => do
    let answer ← Action.attempt <|
      Scope.endUnder label fun scope => scope.drop stage.provider.besideGuards
    perform stage (next answer)
  | run context handle operation inner next => do
    let answer ← Action.attempt <|
      runInNamespace stage.provider.besideGuards context handle operation
        (perform stage inner)
    perform stage (next answer)

/-- Carrying out a usage comes to a part of it, in the state given and
inside the runs whose scopes are given, the innermost one first. -/
inductive Reaches (stage : Stage η ε θ) :
    List Scope → Usage η ε α → Session (Guarded θ) →
      List Scope → Usage η ε α → Session (Guarded θ) → Prop
  | here {around : List Scope} {u : Usage η ε α} {s : Session (Guarded θ)} :
      Reaches stage around u s around u s
  | looked {around within : List Scope} {next : η → Usage η ε α}
      {u : Usage η ε α} {s t : Session (Guarded θ)}
      (rest : Reaches stage around (next (stage.see s.host.host)) s
        within u t) :
      Reaches stage around (look next) s within u t
  | adjusted {around within : List Scope} {change : ε}
      {next u : Usage η ε α} {s t : Session (Guarded θ)}
      (rest : Reaches stage around next
        { s with
          host := { s.host with host := stage.adjust s.host.host change } }
        within u t) :
      Reaches stage around (adjust change next) s within u t
  | entered {around within : List Scope} {label : String}
      {context : Context} {handle : Option Handle} {operation : String}
      {next : Outcome Unit → Usage η ε α} {u : Usage η ε α}
      {answer : Outcome Unit} {s r t : Session (Guarded θ)}
      (ran : outcome (Scope.enterUnder stage.provider label context handle
        operation) s = (answer, r))
      (rest : Reaches stage around (next answer) r within u t) :
      Reaches stage around (enter label context handle operation next) s
        within u t
  | exited {around within : List Scope} {label : String}
      {next : Outcome Unit → Usage η ε α} {u : Usage η ε α}
      {answer : Outcome Unit} {s r t : Session (Guarded θ)}
      (ran : outcome (Scope.endUnder label fun scope =>
        scope.exit stage.provider.besideGuards) s = (answer, r))
      (rest : Reaches stage around (next answer) r within u t) :
      Reaches stage around (exit label next) s within u t
  | dropped {around within : List Scope} {label : String}
      {next : Outcome Unit → Usage η ε α} {u : Usage η ε α}
      {answer : Outcome Unit} {s r t : Session (Guarded θ)}
      (ran : outcome (Scope.endUnder label fun scope =>
        scope.drop stage.provider.besideGuards) s = (answer, r))
      (rest : Reaches stage around (next answer) r within u t) :
      Reaches stage around (drop label next) s within u t
  | inside {around within : List Scope} {context : Context}
      {handle : Option Handle} {operation : String}
      {inner u : Usage η ε α} {next : Outcome α → Usage η ε α}
      {scope : Scope} {s r t : Session (Guarded θ)}
      (entering : outcome (Scope.enter stage.provider.besideGuards context
        handle operation) s = (.ok scope, r))
      (rest : Reaches stage (scope :: around) inner r within u t) :
      Reaches stage around (run context handle operation inner next) s
        within u t
  | after {around within : List Scope} {context : Context}
      {handle : Option Handle} {operation : String}
      {inner u : Usage η ε α} {next : Outcome α → Usage η ε α}
      {answer : Outcome α} {s r t : Session (Guarded θ)}
      (ran : outcome (runInNamespace stage.provider.besideGuards context
        handle operation (perform stage inner)) s = (answer, r))
      (rest : Reaches stage around (next answer) r within u t) :
      Reaches stage around (run context handle operation inner next) s
        within u t

theorem outcome_perform_finish (stage : Stage η ε θ) (answer : Outcome α)
    (s : Session (Guarded θ)) :
    outcome (perform stage (finish answer : Usage η ε α)) s = (answer, s) := by
  cases answer <;> rfl

/-- Every usage comes to its end, where it leaves what carrying it out
leaves. -/
theorem reaches_end (stage : Stage η ε θ) (usage : Usage η ε α)
    (around : List Scope) (s : Session (Guarded θ)) :
    Reaches stage around usage s around
      (finish (outcome (usage.perform stage) s).1)
      (outcome (usage.perform stage) s).2 := by
  induction usage generalizing around s with
  | finish answer =>
    rw [outcome_perform_finish]
    exact .here
  | look next ih =>
    have rest := ih (stage.see s.host.host) around s
    exact .looked rest
  | adjust change next ih => exact .adjusted (ih around _)
  | enter label context handle operation next ih =>
    simp only [perform, outcome_bind, outcome_attempt]
    exact .entered rfl (ih _ around _)
  | exit label next ih =>
    simp only [perform, outcome_bind, outcome_attempt]
    exact .exited rfl (ih _ around _)
  | drop label next ih =>
    simp only [perform, outcome_bind, outcome_attempt]
    exact .dropped rfl (ih _ around _)
  | run context handle operation inner next ih ihNext =>
    simp only [perform, outcome_bind, outcome_attempt]
    exact .after rfl (ihNext _ around _)

end Usage

/-! ## What is kept, given the live switches -/

/-- A property of sessions, given the switches that are live, in any order.
Entering makes a switch live and leaving ends it, however that goes. -/
structure Accounts (provider : NamespaceProvider η)
    (I : List SwitchState → Session η → Prop) : Prop where
  perm : ∀ {live others s}, live.Perm others → I live s → I others s
  note : ∀ {live s} n, I live s → I live (s.noting n)
  enter : ∀ {live s} handle, I live s →
    match outcome (provider.enter handle) s with
    | (.ok state, t) => I (state :: live) t
    | (.error _, t) => I live t
  exit : ∀ {live s} state, I (state :: live) s →
    I live (outcome (provider.exit state) s).2

/-- Dropping a scope leaves what leaving it does. -/
theorem Scope.drop_eq_exit (provider : NamespaceProvider η) (scope : Scope)
    (s : Session η) :
    (outcome (scope.drop provider) s).2 =
      (outcome (scope.exit provider) s).2 := by
  simp only [drop, outcome_bind, outcome_attempt]
  rcases outcome (scope.exit provider) s with ⟨(e | message) | ⟨⟩, t⟩ <;> rfl

namespace Accounts

variable {provider : NamespaceProvider η}
  {I : List SwitchState → Session η → Prop} {live : List SwitchState}

theorem scope_enter (accounts : Accounts provider I) (context : Context)
    (handle : Option Handle) (operation : String) {s : Session η}
    (holds : I live s) :
    match outcome (Scope.enter provider context handle operation) s with
    | (.ok scope, t) => I (scope.switches ++ live) t
    | (.error _, t) => I live t := by
  cases named : context.isDefault with
  | true =>
    rw [Scope.outcome_enter_default provider handle operation s named]
    exact holds
  | false =>
    cases handle with
    | none =>
      rw [Scope.outcome_enter_closed provider operation s named]
      exact accounts.note _ holds
    | some handle =>
      have asked := accounts.enter handle
        (accounts.note (.switching context.name operation) holds)
      rw [Scope.outcome_enter_open provider handle operation s named]
      rcases entering : outcome (provider.enter handle)
          (s.noting (.switching context.name operation))
        with ⟨(e | message) | state, t⟩ <;> rw [entering] at asked
      · exact accounts.note _ asked
      · exact asked
      · exact asked

theorem scope_exit (accounts : Accounts provider I) (scope : Scope)
    {s : Session η} (holds : I (scope.switches ++ live) s) :
    I live (outcome (scope.exit provider) s).2 := by
  obtain ⟨operation, saved⟩ := scope
  cases saved with
  | none => exact holds
  | some state =>
    have left := accounts.exit state holds
    simp only [Scope.exit, Scope.outcome_restore]
    rcases leaving : outcome (provider.exit state) s
      with ⟨(e | message) | ⟨⟩, t⟩ <;> rw [leaving] at left
    · exact accounts.note _ left
    · exact left
    · exact accounts.note _ left

theorem scope_drop (accounts : Accounts provider I) (scope : Scope)
    {s : Session η} (holds : I (scope.switches ++ live) s) :
    I live (outcome (scope.drop provider) s).2 := by
  rw [Scope.drop_eq_exit]
  exact accounts.scope_exit scope holds

/-- Beside guards the same is kept, and the guards stay as they are. -/
theorem besideGuards (accounts : Accounts provider I)
    (guards : Labelled Scope) :
    Accounts provider.besideGuards fun live s =>
      s.host.guards = guards ∧ I live s.unguarded where
  perm same := And.imp_right (accounts.perm same)
  note n := And.imp_right (accounts.note n)
  enter {live s} handle holds := by
    have entered := accounts.enter handle holds.2
    simp only [NamespaceProvider.besideGuards, outcome_focus]
    rcases entering : outcome (provider.enter handle) s.unguarded
      with ⟨f | state, t⟩ <;> rw [entering] at entered
    · exact ⟨holds.1, entered⟩
    · exact ⟨holds.1, entered⟩
  exit state holds := by
    have left := accounts.exit state holds.2
    simp only [NamespaceProvider.besideGuards, outcome_focus]
    exact ⟨holds.1, left⟩

end Accounts

/-! ## What every usage keeps -/

def held (guards : Labelled Scope) : List SwitchState :=
  guards.flatMap fun entry => entry.2.switches

/-- Inside the given runs, the property holds for the switches of all guards
that are alive, and no two guards have one label. -/
structure Guarding (I : List SwitchState → Session η → Prop)
    (around : List Scope) (s : Session (Guarded η)) : Prop where
  labels : (s.host.guards.map Prod.fst).Nodup
  holds : I (held s.host.guards ++ around.flatMap Scope.switches) s.unguarded

section Kept

variable {provider : NamespaceProvider η}
  {I : List SwitchState → Session η → Prop} {around : List Scope}
  {guards : Labelled Scope} {label : String}

/-- What holds for all guards holds for one of them and the others. -/
theorem held_of_at?_eq_some {scope : Scope}
    (labels : (guards.map Prod.fst).Nodup)
    (found : guards.at? label = some scope) :
    (held guards).Perm (scope.switches ++ held (guards.without label)) :=
  (Labelled.perm_of_at? labels found).flatMap_right _

/-- Ending the guard under a label keeps what ending its scope keeps. -/
theorem endUnder_keeps {ending : Scope → Action (Session (Guarded η)) Unit}
    (accounts : Accounts provider I)
    (ends : ∀ scope guards live s,
      s.host.guards = guards ∧ I (scope.switches ++ live) s.unguarded →
      (outcome (ending scope) s).2.host.guards = guards ∧
        I live (outcome (ending scope) s).2.unguarded) :
    (Scope.endUnder label ending).Keeps (Guarding I around) := by
  intro s ⟨labels, holds⟩
  simp only [Scope.endUnder, outcome_bind, outcome_modifyGet]
  have fewer := Labelled.nodup_without labels label
  rcases found : s.host.guards.at? label with _ | scope
  · constructor
    · exact fewer
    · simpa only [outcome_pure, Session.unguarded_guarding,
        Session.guards_guarding,
        Labelled.without_of_at?_eq_none found] using holds
  · have apart := (held_of_at?_eq_some labels found).append_right
      (around.flatMap Scope.switches)
    rw [List.append_assoc] at apart
    obtain ⟨same, ended⟩ := ends scope (s.host.guards.without label) _
      (s.unguarded.guarding (s.host.guards.without label))
      ⟨rfl, accounts.perm apart holds⟩
    constructor
    · rw [same]
      exact fewer
    · rw [same]
      exact ended

theorem held_put (guards : Labelled Scope) (label : String) (scope : Scope) :
    held (guards.put label scope) =
      scope.switches ++ held (guards.without label) := rfl

/-- Putting a scope under a label makes its switch live, and the one of a
guard that was there is ended. -/
theorem enterUnder_keeps (accounts : Accounts provider I) (label : String)
    (around : List Scope) (context : Context) (handle : Option Handle)
    (operation : String) :
    (Scope.enterUnder provider label context handle operation).Keeps
      (Guarding I around) := by
  intro s ⟨labels, holds⟩
  have entered := (accounts.besideGuards s.host.guards).scope_enter context
    handle operation ⟨rfl, holds⟩
  simp only [Scope.enterUnder, outcome_bind]
  rcases entering : outcome (Scope.enter provider.besideGuards context handle
      operation) s with ⟨f | scope, t⟩ <;> rw [entering] at entered
  · obtain ⟨same, holds⟩ := entered
    constructor
    · rw [same]
      exact labels
    · rw [same]
      exact holds
  obtain ⟨same, holds⟩ := entered
  have labelsPut := Labelled.nodup_put labels label scope
  simp only [outcome_modifyGet, same]
  rcases found : s.host.guards.at? label with _ | old
  · constructor
    · exact labelsPut
    · rw [← List.append_assoc] at holds
      simpa only [outcome_pure, Session.unguarded_guarding,
        Session.guards_guarding, held_put,
        Labelled.without_of_at?_eq_none found] using holds
  · -- The guard that was there is ended beside the new one.
    let rest := scope.switches ++ (held (s.host.guards.without label) ++
      around.flatMap Scope.switches)
    have apart := held_of_at?_eq_some labels found
    have both : (scope.switches ++ (held s.host.guards ++
        around.flatMap Scope.switches)).Perm (old.switches ++ rest) := by
      have first := (apart.append_right
        (around.flatMap Scope.switches)).append_left scope.switches
      rw [List.append_assoc old.switches] at first
      exact first.trans (List.perm_append_comm_assoc _ _ _)
    obtain ⟨kept, ended⟩ :=
      (accounts.besideGuards (s.host.guards.put label scope)).scope_drop
        (s := t.unguarded.guarding (s.host.guards.put label scope)) old
        ⟨rfl, accounts.perm both holds⟩
    constructor
    · rw [kept]
      exact labelsPut
    · rw [kept, held_put, List.append_assoc]
      exact ended

namespace Usage

variable {stage : Stage η ε θ} {J : List SwitchState → Session θ → Prop}
  (accounts : Accounts stage.provider J)
  (adjusts : ∀ {live s} change, J live s →
    J live { s with host := stage.adjust s.host change })

include accounts

theorem exit_keeps (label : String) (around : List Scope) :
    (Scope.endUnder label fun scope =>
      scope.exit stage.provider.besideGuards).Keeps (Guarding J around) :=
  endUnder_keeps accounts fun scope guards _ _ =>
    (accounts.besideGuards guards).scope_exit scope

theorem drop_keeps (label : String) (around : List Scope) :
    (Scope.endUnder label fun scope =>
      scope.drop stage.provider.besideGuards).Keeps (Guarding J around) :=
  endUnder_keeps accounts fun scope guards _ _ =>
    (accounts.besideGuards guards).scope_drop scope

/-- Entering the scope of a run makes its switch live inside. -/
theorem guarding_inside {around : List Scope} {context : Context}
    {handle : Option Handle} {operation : String} {s t : Session (Guarded θ)}
    {answer : Outcome Scope} (guarding : Guarding J around s)
    (entering : outcome (Scope.enter stage.provider.besideGuards context
      handle operation) s = (answer, t)) :
    (∀ scope, answer = .ok scope → Guarding J (scope :: around) t) ∧
      ∀ f, answer = .error f → Guarding J around t := by
  have entered := (accounts.besideGuards s.host.guards).scope_enter context
    handle operation ⟨rfl, guarding.holds⟩
  rw [entering] at entered
  constructor
  · rintro scope rfl
    obtain ⟨same, holds⟩ := entered
    constructor
    · rw [same]
      exact guarding.labels
    · rw [same, List.flatMap_cons]
      exact accounts.perm (List.perm_append_comm_assoc _ _ _) holds
  · rintro f rfl
    obtain ⟨same, holds⟩ := entered
    constructor
    · rw [same]
      exact guarding.labels
    · rw [same]
      exact holds

/-- A run ends the switch that it has made, whatever happens inside. -/
theorem run_keeps (around : List Scope) (context : Context)
    (handle : Option Handle) (operation : String)
    {act : Action (Session (Guarded θ)) α}
    (keeps : ∀ around, act.Keeps (Guarding J around)) :
    (runInNamespace stage.provider.besideGuards context handle operation
      act).Keeps (Guarding J around) := by
  intro s guarding
  rw [outcome_runInNamespace_eq]
  rcases entering : outcome (Scope.enter stage.provider.besideGuards context
      handle operation) s with ⟨f | scope, t⟩
  · exact (guarding_inside accounts guarding entering).2 f rfl
  · have inside := (guarding_inside accounts guarding entering).1 scope rfl
    have done := keeps (scope :: around) t inside
    have holds := done.holds
    rw [List.flatMap_cons] at holds
    obtain ⟨same, left⟩ := (accounts.besideGuards
      (outcome act t).2.host.guards).scope_exit scope
        ⟨rfl, accounts.perm (List.perm_append_comm_assoc _ _ _) holds⟩
    constructor
    · rw [same]
      exact done.labels
    · rw [same]
      exact left

include adjusts

/-- Carrying a usage out keeps the property, for whichever switches are live
outside. -/
theorem perform_keeps (usage : Usage η ε α) (around : List Scope) :
    (usage.perform stage).Keeps (Guarding J around) := by
  induction usage generalizing around with
  | finish answer =>
    intro s guarding
    rw [outcome_perform_finish]
    exact guarding
  | look next ih => exact Keeps.get.bind fun s => ih _ around
  | adjust change next ih =>
    refine Keeps.bind (.modify fun s guarding => ?_) fun _ => ih around
    exact ⟨guarding.labels, adjusts change guarding.holds⟩
  | enter label context handle operation next ih =>
    have enters := enterUnder_keeps accounts label around context handle
      operation
    exact enters.attempt.bind fun answer => ih answer around
  | exit label next ih =>
    have exits := exit_keeps accounts label around
    exact exits.attempt.bind fun answer => ih answer around
  | drop label next ih =>
    have drops := drop_keeps accounts label around
    exact drops.attempt.bind fun answer => ih answer around
  | run context handle operation inner next ih ihNext =>
    have runs := run_keeps accounts around context handle operation ih
    exact runs.attempt.bind fun answer => ihNext answer around

/-- At every point of a usage the property holds for the switches that are
live there. -/
theorem Reaches.guarding {around within : List Scope}
    {usage point : Usage η ε α} {s t : Session (Guarded θ)}
    (reached : Reaches stage around usage s within point t)
    (guarding : Guarding J around s) : Guarding J within t := by
  induction reached with
  | here => exact guarding
  | looked rest ih => exact ih guarding
  | adjusted rest ih =>
    exact ih ⟨guarding.labels, adjusts _ guarding.holds⟩
  | @entered around _ label context handle operation _ _ _ s _ _ ran rest
      ih =>
    have kept := enterUnder_keeps accounts label around context handle
      operation s guarding
    rw [ran] at kept
    exact ih kept
  | @exited around _ label _ _ _ s _ _ ran rest ih =>
    have kept := exit_keeps accounts label around s guarding
    rw [ran] at kept
    exact ih kept
  | @dropped around _ label _ _ _ s _ _ ran rest ih =>
    have kept := drop_keeps accounts label around s guarding
    rw [ran] at kept
    exact ih kept
  | inside entering rest ih =>
    exact ih ((guarding_inside accounts guarding entering).1 _ rfl)
  | @after around _ context handle operation inner _ _ _ s _ _ ran rest ih =>
    have inner_keeps := perform_keeps accounts adjusts inner
    have kept := run_keeps accounts around context handle operation
      inner_keeps s guarding
    rw [ran] at kept
    exact ih kept

end Usage
end Kept

/-- What is seen of a host beside the same guards. -/
def Guarded.onto (view : θ → υ) (g : Guarded θ) : Guarded υ :=
  ⟨view g.host, g.guards⟩

/-- A stage looks like another one. -/
structure Stage.Mirrors (view : θ → υ) (stage : Stage η ε θ)
    (image : Stage η ε υ) : Prop where
  provider : stage.provider.Mirrors view image.provider
  see : ∀ host, image.see (view host) = stage.see host
  adjust : ∀ host change,
    image.adjust (view host) change = view (stage.adjust host change)

section Mirrors

variable {view : θ → υ}

theorem NamespaceProvider.besideGuards_mirrors
    {provider : NamespaceProvider θ} {image : NamespaceProvider υ}
    (mirrors : provider.Mirrors view image) :
    provider.besideGuards.Mirrors (Guarded.onto view) image.besideGuards where
  openHandle name :=
    (mirrors.openHandle name).focus (fun _ => rfl) fun _ _ => rfl
  enter handle := (mirrors.enter handle).focus (fun _ => rfl) fun _ _ => rfl
  exit state := (mirrors.exit state).focus (fun _ => rfl) fun _ _ => rfl

variable {stage : Stage η ε θ} {image : Stage η ε υ}

/-- A usage looks the same on stages that look the same. -/
theorem Usage.perform_mirrors (mirrors : stage.Mirrors view image)
    (usage : Usage η ε α) :
    Mirrors (Session.onto (Guarded.onto view)) (usage.perform stage)
      (usage.perform image) := by
  have guarded :=
    NamespaceProvider.besideGuards_mirrors mirrors.provider
  have ends : ∀ label {ending : Scope → Action (Session (Guarded θ)) Unit}
      {ending' : Scope → Action (Session (Guarded υ)) Unit},
      (∀ scope, Mirrors (Session.onto (Guarded.onto view)) (ending scope)
        (ending' scope)) →
      Mirrors (Session.onto (Guarded.onto view))
        (Scope.endUnder label ending) (Scope.endUnder label ending') := by
    intro label ending ending' same
    refine Mirrors.bind (.modifyGet fun _ => rfl) fun held => ?_
    cases held with
    | none => exact .pure _ _
    | some scope => exact same scope
  induction usage with
  | finish answer =>
    cases answer with
    | ok value => exact .pure _ value
    | error f => exact fun _ => rfl
  | look next ih =>
    refine .get_bind fun s => ?_
    have same := mirrors.see s.host.host
    simp only [Session.onto, Guarded.onto, same]
    exact ih _
  | adjust change next ih =>
    refine Mirrors.bind (.modify fun s => ?_) fun _ => ih
    have same := mirrors.adjust s.host.host change
    simp only [Session.onto, Guarded.onto, same]
  | enter label context handle operation next ih =>
    have enters := Scope.enter_mirrors guarded context handle operation
    refine Mirrors.bind (Mirrors.attempt ?_) ih
    refine enters.bind fun scope => ?_
    refine Mirrors.bind (.modifyGet fun _ => rfl) fun replaced => ?_
    cases replaced with
    | none => exact .pure _ _
    | some old => exact Scope.drop_mirrors guarded old
  | exit label next ih =>
    exact (ends label (Scope.exit_mirrors guarded)).attempt.bind ih
  | drop label next ih =>
    exact (ends label (Scope.drop_mirrors guarded)).attempt.bind ih
  | run context handle operation inner next ih ihNext =>
    have runs := runInNamespace_mirrors guarded context handle operation ih
    exact runs.attempt.bind ihNext

end Mirrors
end InterfaceManager

import InterfaceManager.Proofs.Namespace.Pools
import InterfaceManager.Proofs.Namespace.RunsAlike

/-!
# Namespaces in memory stand in for those of a machine

Pools in memory and pools of a machine that offer and refuse the same cannot be
told apart by a play, also after a switch back has failed and left the threads
in another namespace.
-/

namespace InterfaceManager

open InterfaceManager.Action

/-- What giving a context back does depends on the pool alone. -/
theorem Pooled.release_alike {p : Pooled η} {q : Pooled θ}
    (pools : p.pool = q.pool) (context : Context) :
    let first := outcome (release context) p
    let second := outcome (release context) q
    first.1 = second.1 ∧ first.2.pool = second.2.pool ∧
      first.2.session.host = p.session.host ∧
      second.2.session.host = q.session.host ∧
      (first.2.contexts = p.contexts ∧ second.2.contexts = q.contexts ∨
        ∃ held, first.2.contexts = p.contexts.close held ∧
          second.2.contexts = q.contexts.close held) := by
  rcases found : p.pool.lease? context.name with _ | lease
  · have untracked : p.pool.get? context.name = none := by
      rw [Pool.get?, found, Option.map_none]
    rw [outcome_release_untracked untracked,
      outcome_release_untracked (pools ▸ untracked)]
    exact ⟨rfl, pools, rfl, rfl, Or.inl ⟨rfl, rfl⟩⟩
  · have tracked := Pool.get?_of_lease? found
    by_cases stale : lease.context.id = context.id
    · by_cases unused : lease.refcount = 0
      · rw [outcome_release_unused found stale unused,
          outcome_release_unused (pools ▸ found) stale unused]
        exact ⟨rfl, pools, rfl, rfl, Or.inl ⟨rfl, rfl⟩⟩
      · have used := Nat.pos_of_ne_zero unused
        rw [outcome_release found stale used,
          outcome_release (pools ▸ found) stale used]
        by_cases last : lease.refcount = 1
        · simp only [released, if_pos last, pools]
          refine ⟨trivial, trivial, host_closing .., host_closing ..,
            Or.inr ⟨lease.context, rfl, rfl⟩⟩
        · simp only [released, if_neg last, pools]
          exact ⟨trivial, trivial, rfl, rfl, Or.inl ⟨trivial, trivial⟩⟩
    · rw [outcome_release_stale tracked stale,
        outcome_release_stale (pools ▸ tracked) stale]
      exact ⟨rfl, pools, rfl, rfl, Or.inl ⟨rfl, rfl⟩⟩

/-- Pools in memory and pools of a machine with the threads in the same
namespace and with handles that lead to the same namespaces. -/
structure Pools.Alike (s : Pools MemoryNamespaces) (t : Pools Machine) :
    Prop where
  here : s.session.host.current = t.session.host.current
  pools : s.pools = t.pools
  kept : s.kept = t.kept
  created : s.contexts.handles.length = t.contexts.handles.length
  handles : ∀ context, SameHandle t.session.host
    (s.contexts.handle? context) (t.contexts.handle? context)

/-- A name that can be opened in memory and stands for the namespace of this
name on the machine, or one that can be opened on neither. -/
def OpenAlike (config : NamespaceConfig) (name : String)
    (m : MemoryNamespaces) (n : Machine) : Prop :=
  if name ∈ m.known then
    (n.offered? config name).bind n.namespaceOf? = some name
  else n.offered? config name = none

instance (config : NamespaceConfig) (name : String) (m : MemoryNamespaces)
    (n : Machine) : Decidable (OpenAlike config name m n) :=
  if known : name ∈ m.known then
    decidable_of_iff _ (by rw [OpenAlike, if_pos known])
  else decidable_of_iff _ (by rw [OpenAlike, if_neg known])

/-- The hosts offer and refuse alike what is asked of them in a turn. -/
def Matched (config : NamespaceConfig) (s : Pools MemoryNamespaces)
    (t : Pools Machine) : Turn α → Prop
  | .stage _ => True
  | .acquire pool name _ =>
    (s.pool pool).lease? name = none → name ≠ "" →
      OpenAlike config name s.session.host t.session.host
  | .release _ _ => True
  | .run label _ inside _ =>
    ∀ context ∈ s.kept.at? label, context.isDefault = false →
      ∀ handle ∈ s.contexts.handle? context,
        RefuseAlike config inside handle.name s.session.host t.session.host

instance (config : NamespaceConfig) (s : Pools MemoryNamespaces)
    (t : Pools Machine) (turn : Turn α) :
    Decidable (Matched config s t turn) :=
  match turn with
  | .stage _ => inferInstanceAs (Decidable True)
  | .acquire .. => inferInstanceAs (Decidable (_ → _ → _))
  | .release .. => inferInstanceAs (Decidable True)
  | .run .. => inferInstanceAs (Decidable (∀ _ ∈ _, _ → ∀ _ ∈ _, _))

/-- What is observed of a turn in memory and of the same turn on a machine:
the closures are told the same, the turn ends alike, and the threads are in
the same namespace. -/
structure Point.Alike (first second : Point α) : Prop where
  seen : first.seen = second.seen
  answer : SameEnd first.answer second.answer
  current : first.current = second.current

/-! ## Turns alike -/

namespace Pools.Alike

variable {config : NamespaceConfig} {s : Pools MemoryNamespaces}
  {t : Pools Machine}

theorem pool_eq (alike : s.Alike t) (i : Nat) : s.pool i = t.pool i := by
  rw [Pools.pool, Pools.pool, alike.pools]

/-- What works on the sessions alone keeps everything else alike. -/
theorem session (alike : s.Alike t) {u : Session MemoryNamespaces}
    {v : Session Machine} (here : u.host.current = v.host.current)
    (keeps : t.session.host.KeepsFiles v.host) :
    Alike { s with session := u } { t with session := v } where
  here := here
  pools := alike.pools
  kept := alike.kept
  created := alike.created
  handles := fun context => (alike.handles context).later keeps

/-- What works on a pool of each, and then keeps or gives up the same
contexts, keeps them alike. -/
theorem withPooled (alike : s.Alike t) (i : Nat)
    {kept kept' : Labelled Context} (same : kept = kept')
    {p : Pooled MemoryNamespaces} {q : Pooled Machine}
    (here : p.session.host.current = q.session.host.current)
    (pool : p.pool = q.pool)
    (created : p.contexts.handles.length = q.contexts.handles.length)
    (handles : ∀ context, SameHandle q.session.host
      (p.contexts.handle? context) (q.contexts.handle? context)) :
    Alike { s.withPooled i p with kept := kept }
      { t.withPooled i q with kept := kept' } where
  here := here
  pools := by
    simp only [Pools.withPooled, alike.pools, pool]
  kept := same
  created := created
  handles := handles

/-- A new context under the same handle on both sides. -/
theorem handles_create (alike : s.Alike t) (name : String) {n : Machine}
    (keeps : t.session.host.KeepsFiles n) {h k : Option Handle}
    (same : SameHandle n h k) (context : Context) :
    SameHandle n ((s.contexts.create name h).2.handle? context)
      ((t.contexts.create name k).2.handle? context) := by
  rw [Contexts.handle?_create_eq, Contexts.handle?_create_eq, alike.created]
  split
  · exact same
  · exact (alike.handles context).later keeps

/-- The same context closed on both sides. -/
theorem handles_close (alike : s.Alike t) (held context : Context) :
    SameHandle t.session.host ((s.contexts.close held).handle? context)
      ((t.contexts.close held).handle? context) := by
  rw [Contexts.handle?_close, Contexts.handle?_close]
  split
  · exact .closed
  · exact alike.handles context

/-- What is left of the contexts when nothing or the same one is closed on
both sides. -/
theorem after_close (alike : s.Alike t) {first second : Contexts}
    (closed : first = s.contexts ∧ second = t.contexts ∨
      ∃ held, first = s.contexts.close held ∧
        second = t.contexts.close held) :
    first.handles.length = second.handles.length ∧
      ∀ context, SameHandle t.session.host (first.handle? context)
        (second.handle? context) := by
  obtain ⟨rfl, rfl⟩ | ⟨held, rfl, rfl⟩ := closed
  · exact ⟨alike.created, alike.handles⟩
  · refine ⟨?_, alike.handles_close held⟩
    simp only [Contexts.close, List.length_set]
    exact alike.created

end Pools.Alike

/-- What two turns have in common: what closures were told, how they ended,
and the pools after them. -/
def TakenAlike
    (first : List String × Outcome (Option α) × Pools MemoryNamespaces)
    (second : List String × Outcome (Option α) × Pools Machine) : Prop :=
  first.1 = second.1 ∧ SameEnd first.2.1 second.2.1 ∧
    first.2.2.Alike second.2.2

section Take

variable {config : NamespaceConfig} {s : Pools MemoryNamespaces}
  {t : Pools Machine} (alike : s.Alike t)

include alike

theorem stage_alike (staging : Staging) :
    TakenAlike (α := α) (MemoryNamespaces.rig.take s (.stage staging))
      ((Machine.rig config).take t (.stage staging)) :=
  ⟨rfl, .same _,
    alike.session alike.here (t.session.host.keepsFiles_staged staging)⟩

/-- The same context acquired from a pool of each. -/
theorem acquired_alike {i : Nat} {name label : String} {context : Context}
    {p : Pooled MemoryNamespaces} {q : Pooled Machine}
    (first : outcome (Pooled.acquire MemoryNamespaces.provider name)
      (s.pooled i) = (.ok context, p))
    (second : outcome (Pooled.acquire (Machine.provider config) name)
      (t.pooled i) = (.ok context, q))
    (here : p.session.host.current = q.session.host.current)
    (pool : p.pool = q.pool)
    (created : p.contexts.handles.length = q.contexts.handles.length)
    (handles : ∀ context, SameHandle q.session.host
      (p.contexts.handle? context) (q.contexts.handle? context)) :
    TakenAlike (α := α) (MemoryNamespaces.rig.take s (.acquire i name label))
      ((Machine.rig config).take t (.acquire i name label)) := by
  simp only [Rig.take, Rig.step, MemoryNamespaces.rig, Machine.rig,
    Pools.outcome_step_acquired MemoryNamespaces.provider
      MemoryNamespaces.staged first,
    Pools.outcome_step_acquired (Machine.provider config) Machine.staged
      second]
  have kept : s.kept.put label context = t.kept.put label context := by
    rw [alike.kept]
  exact ⟨rfl, .same _,
    alike.withPooled i kept here pool created handles⟩

/-- A new context acquired from a pool of each. -/
theorem created_alike {i : Nat} {name label : String} {h k : Option Handle}
    {u : Session MemoryNamespaces} {v : Session Machine}
    (first : outcome (Pooled.acquire MemoryNamespaces.provider name)
      (s.pooled i) = (.ok (s.contexts.create name h).1,
        (s.pooled i).added name h u))
    (second : outcome (Pooled.acquire (Machine.provider config) name)
      (t.pooled i) = (.ok (t.contexts.create name k).1,
        (t.pooled i).added name k v))
    (here : u.host.current = v.host.current)
    (keeps : t.session.host.KeepsFiles v.host)
    (same : SameHandle v.host h k) :
    TakenAlike (α := α) (MemoryNamespaces.rig.take s (.acquire i name label))
      ((Machine.rig config).take t (.acquire i name label)) := by
  have born : (t.contexts.create name k).1 = (s.contexts.create name h).1 :=
    congrArg (Context.mk · name) alike.created.symm
  have created : (s.contexts.create name h).2.handles.length =
      (t.contexts.create name k).2.handles.length := by
    simp [Contexts.create, alike.created]
  rw [born] at second
  refine acquired_alike alike first second here ?_ created
    (alike.handles_create name keeps same)
  have pool := alike.pool_eq i
  change (s.pool i).insert name ⟨(s.contexts.create name h).1, 1⟩ =
    (t.pool i).insert name ⟨(t.contexts.create name k).1, 1⟩
  rw [pool, born]

/-- The first acquisition of a name that has to be opened. -/
theorem opened_alike {i : Nat} {name label : String}
    (found : (s.pool i).lease? name = none) (default : name ≠ "")
    (offers : OpenAlike config name s.session.host t.session.host) :
    TakenAlike (α := α) (MemoryNamespaces.rig.take s (.acquire i name label))
      ((Machine.rig config).take t (.acquire i name label)) := by
  have found' : (t.pool i).lease? name = none := alike.pool_eq i ▸ found
  rw [OpenAlike] at offers
  split at offers
  · next known =>
    obtain ⟨object, offered, leads⟩ := Option.bind_eq_some_iff.mp offers
    obtain ⟨u, opening, stack⟩ := MemoryNamespaces.open_known
      (s := s.session.noting (.contextPrepared name)) known
    obtain ⟨v, opening', same⟩ := Machine.open_known
      (s := t.session.noting (.contextPrepared name)) offered
    have first := Pooled.outcome_acquire_opened MemoryNamespaces.provider
      (p := s.pooled i) found default opening
    have second := Pooled.outcome_acquire_opened
      (Machine.provider config) (p := t.pooled i) found' default opening'
    rw [Session.host_noting] at stack same
    refine created_alike alike first second ?_ ?_ (.opened ?_)
    · rw [same]
      exact (current_of_stack_eq stack).trans alike.here
    · rw [same]
      exact Machine.keepsFiles_of_eq rfl
    · rw [same]
      exact leads
  · next unknown =>
    obtain ⟨u, opening, stack⟩ := MemoryNamespaces.open_refused
      (s := s.session.noting (.contextPrepared name)) unknown
    obtain ⟨message, v, opening', same⟩ := Machine.open_refused
      (s := t.session.noting (.contextPrepared name)) offers
    have first := Pooled.outcome_acquire_unopened
      MemoryNamespaces.provider (p := s.pooled i) found default opening
    have second := Pooled.outcome_acquire_unopened
      (Machine.provider config) (p := t.pooled i) found' default opening'
    rw [Session.host_noting] at stack same
    simp only [Rig.take, Rig.step, MemoryNamespaces.rig, Machine.rig,
      Pools.outcome_step_unacquired MemoryNamespaces.provider
        MemoryNamespaces.staged first,
      Pools.outcome_step_unacquired (Machine.provider config)
        Machine.staged second]
    refine ⟨rfl, .notOpened .., ?_⟩
    rw [Pools.withPooled_session, Pools.withPooled_session]
    refine alike.session ?_ ?_
    · rw [same]
      exact (current_of_stack_eq stack).trans alike.here
    · rw [same]
      exact Machine.keepsFiles_of_eq rfl

theorem acquire_alike {i : Nat} {name label : String}
    (matched : Matched (α := α) config s t (.acquire i name label)) :
    TakenAlike (α := α) (MemoryNamespaces.rig.take s (.acquire i name label))
      ((Machine.rig config).take t (.acquire i name label)) := by
  have pool := alike.pool_eq i
  rcases found : (s.pool i).lease? name with _ | lease
  · have found' : (t.pool i).lease? name = none := pool ▸ found
    by_cases default : name = ""
    · subst default
      have first := Pooled.outcome_acquire_default MemoryNamespaces.provider
        (p := s.pooled i) found
      have second := Pooled.outcome_acquire_default (Machine.provider config)
        (p := t.pooled i) found'
      exact created_alike alike first second alike.here
        (Machine.keepsFiles_of_eq rfl) .closed
    · exact opened_alike alike found default (matched found default)
  · have found' : (t.pool i).lease? name = some lease := pool ▸ found
    have first := Pooled.outcome_acquire_shared MemoryNamespaces.provider
      (p := s.pooled i) found
    have second := Pooled.outcome_acquire_shared (Machine.provider config)
      (p := t.pooled i) found'
    refine acquired_alike alike first second alike.here ?_ alike.created
      alike.handles
    exact congrArg (Pool.setRefcount · name (lease.refcount + 1)) pool

theorem release_alike (i : Nat) (label : String) :
    TakenAlike (α := α) (MemoryNamespaces.rig.take s (.release i label))
      ((Machine.rig config).take t (.release i label)) := by
  rcases kept : s.kept.at? label with _ | context
  · have kept' : t.kept.at? label = none := alike.kept ▸ kept
    have one := Pools.outcome_step_release_missing MemoryNamespaces.provider
      MemoryNamespaces.staged i kept
    have other := Pools.outcome_step_release_missing
      (Machine.provider config) Machine.staged i kept'
    simp only [Rig.take, Rig.step, MemoryNamespaces.rig, Machine.rig, one,
      other]
    exact ⟨rfl, .same _, alike⟩
  · have kept' : t.kept.at? label = some context := alike.kept ▸ kept
    have one := Pools.outcome_step_release MemoryNamespaces.provider
      MemoryNamespaces.staged (i := i) kept
    have other := Pools.outcome_step_release (Machine.provider config)
      Machine.staged (i := i) kept'
    obtain ⟨answer, pool, host, host', contexts⟩ := Pooled.release_alike
      (p := (s.giving label).pooled i) (q := (t.giving label).pooled i)
      (alike.pool_eq i) context
    obtain ⟨created, handles⟩ := alike.after_close contexts
    let p := (outcome (Pooled.release context) ((s.giving label).pooled i)).2
    let q := (outcome (Pooled.release context) ((t.giving label).pooled i)).2
    have here : p.session.host.current = q.session.host.current := by
      rw [host, host']
      exact alike.here
    have without : s.kept.without label = t.kept.without label := by
      rw [alike.kept]
    have unanswered : ∀ {β : Type} (reply : β) (r : Outcome Unit),
        (r.map fun _ => reply).map (fun _ => (none : Option α)) =
          r.map fun _ => none := by
      rintro β reply (f | ⟨⟩) <;> rfl
    simp only [Rig.take, Rig.step, MemoryNamespaces.rig, Machine.rig, one,
      other, unanswered, answer]
    refine ⟨rfl, .same _, alike.withPooled i without here pool created ?_⟩
    rw [host']
    exact handles

theorem run_alike {label operation : String} {inside : Staging}
    {closure : String → Outcome α}
    (matched : Matched config s t (.run label operation inside closure)) :
    TakenAlike
      (MemoryNamespaces.rig.take s (.run label operation inside closure))
      ((Machine.rig config).take t (.run label operation inside closure)) := by
  rcases kept : s.kept.at? label with _ | context
  · have kept' : t.kept.at? label = none := alike.kept ▸ kept
    simp only [Rig.take, kept, kept']
    exact ⟨rfl, .same _, alike⟩
  · have kept' : t.kept.at? label = some context := alike.kept ▸ kept
    obtain ⟨seen, ended, here, keeps⟩ := visit_alike alike.here
      (alike.handles context)
      (fun named handle held => matched context kept named handle held)
      operation closure
    simp only [Rig.take, kept, kept']
    exact ⟨seen, ended.map some, alike.session here keeps⟩

end Take

/-- Every turn for which the hosts are matched keeps the pools alike. -/
theorem take_alike {config : NamespaceConfig} {s : Pools MemoryNamespaces}
    {t : Pools Machine} (alike : s.Alike t) {turn : Turn α}
    (matched : Matched config s t turn) :
    TakenAlike (MemoryNamespaces.rig.take s turn)
      ((Machine.rig config).take t turn) := by
  cases turn with
  | stage staging => exact stage_alike alike staging
  | acquire pool name label => exact acquire_alike alike matched
  | release pool label => exact release_alike alike pool label
  | run label operation inside closure => exact run_alike alike matched

theorem alike_start {m : MemoryNamespaces} {n : Machine}
    (here : m.current = n.current) (count : Nat) :
    (Pools.start m count).Alike (Pools.start n count) where
  here := here
  pools := rfl
  kept := rfl
  created := rfl
  handles := fun _ => .closed

/-- The hosts are matched at every turn of a play. -/
def AlwaysMatched (config : NamespaceConfig) (s : Pools MemoryNamespaces)
    (t : Pools Machine) (turns : List (Turn α)) : Prop :=
  ∀ i (within : i < turns.length),
    Matched config (MemoryNamespaces.rig.after s (turns.take i))
      ((Machine.rig config).after t (turns.take i)) turns[i]

instance (config : NamespaceConfig) (s : Pools MemoryNamespaces)
    (t : Pools Machine) (turns : List (Turn α)) :
    Decidable (AlwaysMatched config s t turns) :=
  inferInstanceAs (Decidable (∀ i (_ : i < _), _))

/-- A play for which the hosts are always matched keeps the pools alike. -/
theorem after_alike {config : NamespaceConfig} {s : Pools MemoryNamespaces}
    {t : Pools Machine} (alike : s.Alike t) {turns : List (Turn α)}
    (matched : AlwaysMatched config s t turns) (i : Nat)
    (within : i ≤ turns.length) :
    (MemoryNamespaces.rig.after s (turns.take i)).Alike
      ((Machine.rig config).after t (turns.take i)) := by
  induction turns generalizing s t i with
  | nil =>
    rw [List.take_nil]
    exact alike
  | cons turn turns ih =>
    cases i with
    | zero => exact alike
    | succ i =>
      have first := matched 0 (Nat.succ_pos _)
      exact ih (take_alike alike first).2.2
        (fun j below => matched (j + 1) (Nat.succ_lt_succ below)) i
        (Nat.le_of_succ_le_succ within)

/-- Pools in memory stand in for pools of a machine.  In every play for which
the two hosts are always matched, with their threads in the same namespace at
first, the same is observed of every turn. -/
theorem memory_stands_in (config : NamespaceConfig) (m : MemoryNamespaces)
    (n : Machine) (count : Nat) (here : m.current = n.current)
    (turns : List (Turn α))
    (matched : AlwaysMatched config (.start m count) (.start n count) turns) :
    ∀ i (within : i < turns.length),
      Point.Alike
        (MemoryNamespaces.rig.point
          (MemoryNamespaces.rig.after (.start m count) (turns.take i))
          turns[i])
        ((Machine.rig config).point
          ((Machine.rig config).after (.start n count) (turns.take i))
          turns[i]) := by
  intro i within
  have before := after_alike (alike_start here count) matched i
    (Nat.le_of_lt within)
  obtain ⟨seen, answer, after⟩ := take_alike before (matched i within)
  exact ⟨seen, answer, after.here⟩

/-- Two namespaces, offered in memory and by the files of a machine. -/
def offering (failingExit : List String) (kernel : Kernel) : Staging where
  known := ["ns_a", "ns_b"]
  failingEnter := []
  failingExit := failingExit
  kernel := kernel
  entries :=
    [(⟨.working, [Text.octets "self"]⟩, .currentNamespace),
      (⟨.working, [Text.octets "run"]⟩, .directory),
      (⟨.working, [Text.octets "run", Text.octets "ns_a"]⟩, .file 0),
      (⟨.working, [Text.octets "run", Text.octets "ns_b"]⟩, .file 1)]
  added := []

/-- A run that cannot leave its namespace, and a run after it. -/
def strandedPlay : List (Turn String) :=
  let refusing : Kernel :=
    { Kernel.empty with switchErrors := [("", .notPermitted)] }
  [.stage
      { offering [] .empty with
        added := [.namespace "ns_a", .namespace "ns_b"] },
    .acquire 0 "ns_a" "a", .acquire 0 "ns_b" "b",
    .run "a" "first" (offering ["ns_a"] refusing) .ok,
    .run "b" "second" (offering [] .empty) .ok]

theorem stands_in_on_strandedPlay :
    let config : NamespaceConfig :=
      ⟨Text.octets "run", Text.octets "self", true⟩
    let memory := MemoryNamespaces.ofNames []
    let machine := Machine.start ⟨[], []⟩ .empty
    let last : Turn String := .run "b" "second" (offering [] .empty) .ok
    let first := MemoryNamespaces.rig.point
      (MemoryNamespaces.rig.after (.start memory 1) (strandedPlay.take 4)) last
    let second := (Machine.rig config).point
      ((Machine.rig config).after (.start machine 1) (strandedPlay.take 4)) last
    memory.current = machine.current ∧
    AlwaysMatched config (.start memory 1) (.start machine 1) strandedPlay ∧
    first.seen = ["ns_b"] ∧ first.current = "ns_a" ∧
    second.seen = ["ns_b"] ∧ second.current = "ns_a" ∧
    SameEnd first.answer second.answer := by
  intro config memory machine last first second
  have matched : AlwaysMatched config (.start memory 1) (.start machine 1)
      strandedPlay := by
    decide +kernel
  have told : first.seen = ["ns_b"] := by decide +kernel
  have left : first.current = "ns_a" := by decide +kernel
  have alike : Point.Alike first second :=
    memory_stands_in config memory machine 1 rfl strandedPlay matched 4
      (by decide)
  exact ⟨rfl, matched, told, left, alike.seen ▸ told, alike.current ▸ left,
    alike.answer⟩

end InterfaceManager

import InterfaceManager.InMemory.Backend
import InterfaceManager.Proofs.Namespace.Calls

/-!
# The accounts of pools

Every turn of a run acquires a context of some name from some pool, gives one
back, or does neither.  For each pool and name the users are the acquisitions
less the releases: this is kept by each turn, so it holds after every run.
Two acquisitions give the same context exactly if they are made of one pool
under one name, and the name has been tracked all the time in between.
-/

namespace InterfaceManager

open InterfaceManager.Action

namespace Pool

variable {contexts : Contexts} {p : Pool}

theorem mem_names_iff {name : String} :
    name ∈ p.names ↔ p.refcount? name ≠ none := by
  have tracked : p.lease? name ≠ none ↔ name ∈ p.leases.map Prod.fst := by
    rw [ne_eq, lease?_eq_none_iff, not_not]
  rw [names, List.mem_mergeSort, ← tracked, refcount?, ne_eq, ne_eq,
    Option.map_eq_none_iff]

theorem length_names : p.names.length = p.size := by
  rw [names, List.length_mergeSort, List.length_map, size]

theorem Sound.pairwise_names (sound : p.Sound contexts) :
    p.names.Pairwise (· < ·) := by
  have sorted : p.names.Pairwise fun a b => decide (a ≤ b) = true := by
    apply List.pairwise_mergeSort
    · intro a b c hab hbc
      exact decide_eq_true
        (String.le_trans (of_decide_eq_true hab) (of_decide_eq_true hbc))
    · intro a b
      rcases String.le_total a b with below | above
      · simp [below]
      · simp [above]
  have distinct : p.names.Nodup :=
    (List.mergeSort_perm _ _).nodup_iff.mpr sound.nodup
  refine (sorted.and distinct).imp ?_
  rintro a b ⟨below, different⟩
  exact Std.lt_of_le_of_ne (of_decide_eq_true below) different

end Pool

namespace Pools

variable {s t : Pools η} {i j : Nat} {name other : String}

/-! ## Turns -/

/-- A step of a run, with the pools before it and what it answered. -/
structure Turn (η ε : Type) where
  before : Pools η
  step : PoolsStep ε
  answer : Outcome (PoolsReply η)

def Turn.acquires (i : Nat) (name : String) (turn : Turn η ε) : Bool :=
  match turn.step, turn.answer with
  | .acquire j other _, .ok _ => j == i && other == name
  | _, _ => false

/-- Whether a turn gave a context of a name back to a pool. -/
def Turn.releases (i : Nat) (name : String) (turn : Turn η ε) : Bool :=
  match turn.step, turn.answer with
  | .release j label, .ok _ =>
    j == i && (turn.before.kept.at? label).any fun c => c.name == name
  | _, _ => false

section Accounts

variable (provider : NamespaceProvider η) (adjust : η → ε → η)

def turn (s : Pools η) (next : PoolsStep ε) : Turn η ε :=
  ⟨s, next, (outcome (step provider adjust next) s).1⟩

def turns (s : Pools η) : List (PoolsStep ε) → List (Turn η ε)
  | [] => []
  | next :: steps =>
    turn provider adjust s next ::
      turns (outcome (step provider adjust next) s).2 steps

/-- How often a run acquires a name from a pool. -/
def acquisitions (s : Pools η) (steps : List (PoolsStep ε)) (i : Nat)
    (name : String) : Nat :=
  (turns provider adjust s steps).countP (Turn.acquires i name)

/-- How often a run gives a context of a name back to a pool. -/
def releases (s : Pools η) (steps : List (PoolsStep ε)) (i : Nat)
    (name : String) : Nat :=
  (turns provider adjust s steps).countP (Turn.releases i name)

theorem pool_acquired {q : Pool} {context : Context}
    (inside : i < s.pools.length) (pools : t.pools = s.pools.set j q)
    (acquired : Pool.Acquired other s.contexts (s.pool j) context
      t.contexts q) (name : String) :
    (t.pool i).users name =
      (s.pool i).users name + if j = i ∧ other = name then 1 else 0 := by
  rw [pool_eq_of_set pools]
  by_cases here : i = j
  · subst here
    have gained := acquired.users_eq name
    rw [if_pos ⟨rfl, inside⟩, gained]
    simp [@eq_comm _ name other]
  · have elsewhere : ¬ j = i := fun h => here h.symm
    simp [here, elsewhere]

theorem pool_released {q : Pool} {context : Context}
    (inside : i < s.pools.length) (pools : t.pools = s.pools.set j q)
    (released : Pool.Released context s.contexts (s.pool j) t.contexts q)
    (name : String) :
    (t.pool i).users name + (if j = i ∧ context.name = name then 1 else 0) =
      (s.pool i).users name := by
  rw [pool_eq_of_set pools]
  by_cases here : i = j
  · subst here
    have lost := released.users_eq name
    rw [if_pos ⟨rfl, inside⟩, lost]
    simp [@eq_comm _ name context.name]
  · have elsewhere : ¬ j = i := fun h => here h.symm
    simp [here, elsewhere]

/-- A turn adds its acquisition to the users of the name and takes its
release from them. -/
theorem users_step (sound : s.Sound) (inside : i < s.pools.length)
    (next : PoolsStep ε) (name : String) :
    ((outcome (step provider adjust next) s).2.pool i).users name +
        (if (turn provider adjust s next).releases i name then 1 else 0) =
      (s.pool i).users name +
        if (turn provider adjust s next).acquires i name then 1 else 0 := by
  have idle : ∀ {t : Pools η}, t.pools = s.pools →
      (t.pool i).users name = (s.pool i).users name := by
    intro t same
    rw [pool, pool, same]
  by_cases acquires : ∃ j other label, next = .acquire j other label
  · obtain ⟨j, other, label, rfl⟩ := acquires
    rcases step_acquire_cases provider adjust j other label s
      with ⟨context, p, acquiring, acquired⟩ | ⟨f, t, -, -, -, acquiring⟩
    · have gained := pool_acquired
        (t := (s.withPooled j p).keeping label context) inside rfl acquired name
      simp [turn, Turn.releases, Turn.acquires, acquiring, gained]
    · simp [turn, Turn.releases, Turn.acquires, acquiring,
        idle (t := { s with session := t }) rfl]
  by_cases releases : ∃ j label, next = .release j label
  · obtain ⟨j, label, rfl⟩ := releases
    rcases kept : s.kept.at? label with _ | context
    · have idling := outcome_step_release_missing provider adjust j kept
      simp [turn, Turn.releases, Turn.acquires, idling, kept]
    · rcases step_release_cases provider adjust sound j kept
        with ⟨held, p, -, -, releasing, released⟩ | ⟨-, releasing⟩ |
          ⟨held, -, -, releasing⟩
      · have lost := pool_released
          (t := (s.giving label).withPooled j p) inside rfl released name
        simp [turn, Turn.releases, Turn.acquires, releasing, kept, lost]
      · simp [turn, Turn.releases, Turn.acquires, releasing,
          idle (t := s.giving label) rfl]
      · simp [turn, Turn.releases, Turn.acquires, releasing,
          idle (t := s.giving label) rfl]
  have stays := outcome_step_stays provider adjust
    (fun j other label same => acquires ⟨j, other, label, same⟩)
    (fun j label same => releases ⟨j, label, same⟩) s
  have neither : (turn provider adjust s next).releases i name = false ∧
      (turn provider adjust s next).acquires i name = false := by
    cases next with
    | acquire j other label => exact absurd ⟨j, other, label, rfl⟩ acquires
    | release j label => exact absurd ⟨j, label, rfl⟩ releases
    | _ => exact ⟨rfl, rfl⟩
  simp [neither, idle stays.2]

/-- The users and the releases of a name make up its users at the beginning
and its acquisitions. -/
theorem users_run (sound : s.Sound) (inside : i < s.pools.length)
    (steps : List (PoolsStep ε)) (name : String) :
    ((run provider adjust s steps).pool i).users name +
        releases provider adjust s steps i name =
      (s.pool i).users name + acquisitions provider adjust s steps i name := by
  induction steps generalizing s with
  | nil => rfl
  | cons next steps ih =>
    have moves := step_moves provider adjust sound next
    have first := users_step provider adjust sound inside next name
    have rest := ih (moves.sound sound) (by rw [moves.length_pools]; exact inside)
    rw [run_cons, releases, acquisitions, turns, List.countP_cons,
      List.countP_cons]
    rw [releases, acquisitions] at rest
    omega

/-! ## One instance as long as its name is tracked -/

/-- A pool tracks a name all along some steps. -/
def Lasts (s : Pools η) (i : Nat) (name : String)
    (steps : List (PoolsStep ε)) : Prop :=
  ∀ earlier, earlier <+: steps →
    ((run provider adjust s earlier).pool i).refcount? name ≠ none

/-- A context in a pool lasts exactly as long as its name. -/
theorem lasts_iff (sound : s.Sound) {context : Context}
    (holds : (s.pool i).get? name = some context)
    (steps : List (PoolsStep ε)) :
    Lasts provider adjust s i name steps ↔
      ((run provider adjust s steps).pool i).get? name = some context := by
  have tracked_iff : ∀ {t : Pools η},
      (t.pool i).refcount? name ≠ none ↔ (t.pool i).get? name ≠ none := by
    intro t
    simp only [Pool.refcount?, Pool.get?, ne_eq, Option.map_eq_none_iff]
  constructor
  · intro lasts
    apply run_get?_of_lasting provider adjust sound holds steps
    intro earlier starts
    exact tracked_iff.mp (lasts earlier starts)
  · rintro kept earlier ⟨more, rfl⟩
    rw [tracked_iff]
    rw [run_append] at kept
    have soundThen := run_sound provider adjust sound earlier
    rcases run_pooled_or_retired provider adjust sound holds earlier
      with pooled | retired
    · simp [pooled]
    · have gone := run_retired provider adjust soundThen retired more
      exact absurd rfl (gone.unknown kept)

/-- What an acquisition gives is known to the pool that it is made of. -/
theorem acquired_get? {label : String} {context : Context}
    (inside : i < s.pools.length)
    (acquiring : outcome (step provider adjust (.acquire i name label)) s =
      (.ok (.context (some context)), t)) :
    (t.pool i).get? name = some context ∧
      ∀ {j other held}, (s.pool j).get? other = some held →
        (t.pool j).get? other = some held := by
  rcases step_acquire_cases provider adjust i name label s
    with ⟨given, p, gave, acquired⟩ | ⟨f, u, -, -, -, gave⟩
  · rw [gave] at acquiring
    cases acquiring
    have pools : ((s.withPooled i p).keeping label context).pools =
        s.pools.set i p.pool := rfl
    constructor
    · rw [pool_eq_of_set pools, if_pos ⟨rfl, inside⟩]
      exact acquired.get?_self
    · intro j other held holds
      rw [pool_eq_of_set pools]
      split
      · next here =>
        obtain ⟨rfl, -⟩ := here
        exact acquired.get?_of_get? holds
      · exact holds
  · rw [gave] at acquiring
    cases acquiring

/-- Two acquisitions give the same context exactly if they are made of one
pool under one name that has been tracked all the time in between. -/
theorem acquired_id_eq_iff (sound : s.Sound) {label label' : String}
    {first second : Context} {u : Pools η} (between : List (PoolsStep ε))
    (inside : i < s.pools.length) (inside' : j < s.pools.length)
    (acquiring : outcome (step provider adjust (.acquire i name label)) s =
      (.ok (.context (some first)), t))
    (again : outcome (step provider adjust (.acquire j other label'))
      (run provider adjust t between) = (.ok (.context (some second)), u)) :
    first.id = second.id ↔
      i = j ∧ name = other ∧ Lasts provider adjust t i name between := by
  have moves := step_moves provider adjust sound (.acquire i name label)
  rw [acquiring] at moves
  have soundFirst := moves.sound sound
  have soundThen := run_sound provider adjust soundFirst between
  have moves' :=
    step_moves provider adjust soundThen (.acquire j other label')
  rw [again] at moves'
  have soundLast := moves'.sound soundThen
  have insideThen : j < (run provider adjust t between).pools.length := by
    rw [length_run provider adjust soundFirst, moves.length_pools]
    exact inside'
  have firstHeld := (acquired_get? provider adjust inside acquiring).1
  obtain ⟨secondHeld, stays⟩ := acquired_get? provider adjust insideThen again
  rw [lasts_iff provider adjust soundFirst firstHeld]
  constructor
  · intro same
    rcases run_pooled_or_retired provider adjust soundFirst firstHeld between
      with kept | retired
    · obtain ⟨rfl, rfl⟩ := soundLast.get?_unique (stays kept) secondHeld same
      exact ⟨rfl, rfl, kept⟩
    · exact absurd same.symm ((moves'.retired retired).unknown secondHeld)
  · rintro ⟨rfl, rfl, kept⟩
    have held := stays kept
    rw [secondHeld] at held
    rw [Option.some.inj held]

/-! ## The accounts of a run -/

theorem users_start (host : η) (count i : Nat) (name : String) :
    ((start host count : Pools η).pool i).users name = 0 := by
  rw [pool_start]
  rfl

/-- The names that a step tries to create a context with a handle for. -/
def creations (s : Pools η) : PoolsStep ε → List String
  | .acquire i name _ =>
    if (s.pool i).get? name = none ∧ name ≠ "" then [name] else []
  | _ => []

theorem calls_open_creations (next : PoolsStep ε) (s : Pools η) :
    (calls provider adjust next s).filterMap openedName = creations s next := by
  by_cases acquires : ∃ i name label, next = .acquire i name label
  · obtain ⟨i, name, label, rfl⟩ := acquires
    rw [calls_acquire, creations]
    split
    · rfl
    · rfl
  · rw [calls_open_nothing provider adjust
      fun i name label same => acquires ⟨i, name, label, same⟩]
    cases next with
    | acquire i name label => exact absurd ⟨i, name, label, rfl⟩ acquires
    | _ => rfl

/-- No release finds a context without users in its pool. -/
theorem step_release_ne_underflow (sound : s.Sound) (i : Nat)
    (label name : String) :
    (outcome (step provider adjust (.release i label)) s).1 ≠
      .error (.panic s!"namespace context '{name}' refcount underflow") := by
  have differs : ∀ {message : String}, message.toList.head? = some 'r' →
      message ≠ s!"namespace context '{name}' refcount underflow" := by
    rintro message starts rfl
    simp [toString] at starts
  rcases kept : s.kept.at? label with _ | context
  · rw [outcome_step_release_missing provider adjust i kept]
    simp
  · rcases step_release_cases provider adjust sound i kept
      with ⟨held, p, -, -, releasing, -⟩ | ⟨-, releasing⟩ |
        ⟨held, -, -, releasing⟩
    · rw [releasing]
      simp
    · rw [releasing]
      intro same
      exact differs (by simp [toString]) (Fault.panic.inj (Except.error.inj same))
    · rw [releasing]
      intro same
      exact differs (by simp [toString]) (Fault.panic.inj (Except.error.inj same))

/-- Two pools have a context of one name each.  The first one is offered the
context of the second one, and then gets one of two users back. -/
def exchange : List (PoolsStep MemoryHost.Adjustment) :=
  [.acquire 0 "ns" "a", .acquire 1 "ns" "b", .release 0 "b",
    .acquire 0 "ns" "c", .release 0 "a"]

/-- For every pool and name of a run, the users are the acquisitions less the
releases, and the name is tracked if there are any.  A handle is opened for
each attempt to create a context with a name, and never otherwise.  An
acquisition that fails to open one changes no pool, and neither does a
release of a context that is not the one in the pool, which panics.  Two
acquisitions give the same context exactly if they are made of one pool under
one name that has been tracked all the time in between. -/
theorem run_keeps_accounts (provider : NamespaceProvider η)
    (adjust : η → ε → η) (host : η) {count i : Nat} (inside : i < count)
    (steps : List (PoolsStep ε)) :
    let s := run provider adjust (start host count) steps
    let p := s.pool i
    (∀ name,
      let acquired :=
        acquisitions provider adjust (start host count) steps i name
      let released := releases provider adjust (start host count) steps i name
      released ≤ acquired ∧
        p.refcount? name =
          if acquired = released then none else some (acquired - released)) ∧
    p.names.Pairwise (· < ·) ∧
    (∀ name, name ∈ p.names ↔ p.refcount? name ≠ none) ∧
    p.size = p.names.length ∧
    (∀ next, (calls provider adjust next s).filterMap openedName =
      creations s next) ∧
    (∀ name label,
      (∃ context t,
        outcome (step provider adjust (.acquire i name label)) s =
          (.ok (.context (some context)), t) ∧
        context.name = name ∧ (t.pool i).get? name = some context) ∨
      ∃ f t, creations s (.acquire i name label : PoolsStep ε) = [name] ∧
        outcome (provider.openHandle name)
          (s.session.noting (.contextPrepared name)) = (.error f, t) ∧
        outcome (step provider adjust (.acquire i name label)) s =
          (.error f, { s with session := t })) ∧
    (∀ label context, s.kept.at? label = some context →
      (∀ held, p.get? context.name = some held → held.id = context.id →
        (outcome (step provider adjust (.release i label)) s).1 = .ok .done) ∧
      (p.get? context.name = none →
        outcome (step provider adjust (.release i label)) s =
          (.error (.panic
            s!"release of untracked namespace context '{context.name}'"),
            s.giving label)) ∧
      (∀ held, p.get? context.name = some held → held.id ≠ context.id →
        outcome (step provider adjust (.release i label)) s =
          (.error (.panic
            s!"release of stale namespace context '{context.name}'"),
            s.giving label))) ∧
    (∀ label (name : String),
      (outcome (step provider adjust (.release i label)) s).1 ≠ .error
        (.panic s!"namespace context '{name}' refcount underflow")) ∧
    (∀ {name label first t}, outcome
        (step provider adjust (.acquire i name label)) s =
          (.ok (.context (some first)), t) →
      ∀ between {j other label' second u}, j < count →
        outcome (step provider adjust (.acquire j other label'))
          (run provider adjust t between) =
            (.ok (.context (some second)), u) →
        (first.id = second.id ↔
          i = j ∧ name = other ∧ Lasts provider adjust t i name between)) := by
  intro s p
  have soundStart := sound_start host count
  have sound : s.Sound := run_sound provider adjust soundStart steps
  have length : s.pools.length = count := by
    rw [length_run provider adjust soundStart, start, List.length_replicate]
  have inside' : i < s.pools.length := by rw [length]; exact inside
  refine ⟨?_, (sound.pools i).pairwise_names, fun _ => Pool.mem_names_iff,
    Pool.length_names.symm, fun next => calls_open_creations provider adjust
    next s, ?_, ?_, step_release_ne_underflow provider adjust sound i, ?_⟩
  · intro name acquired released
    have counted := (sound.pools i).refcount?_eq name
    have balance := users_run provider adjust soundStart
      (by simpa [start] using inside) steps name
    rw [users_start, Nat.zero_add] at balance
    have below : released ≤ acquired := Nat.le.intro (Nat.add_comm _ _ ▸ balance)
    refine ⟨below, ?_⟩
    have users : p.users name = acquired - released :=
      Nat.eq_sub_of_add_eq balance
    rw [counted, users]
    have settled : acquired - released = 0 ↔ acquired = released := by omega
    simp only [settled]
  · intro name label
    rcases step_acquire_cases provider adjust i name label s
      with ⟨context, p, acquiring, acquired⟩ |
        ⟨f, t, untracked, named, opening, acquiring⟩
    · have held := (acquired_get? provider adjust inside' acquiring).1
      have moves := step_moves provider adjust sound (.acquire i name label)
      rw [acquiring] at moves
      have named := ((moves.sound sound).pools i).named_of_get? held
      exact Or.inl ⟨context, _, acquiring, named, held⟩
    · exact Or.inr ⟨f, t, by rw [creations, if_pos ⟨untracked, named⟩],
        opening, acquiring⟩
  · intro label context kept
    rcases step_release_cases provider adjust sound i kept
      with ⟨held, p, tracked, pooled, releasing, -⟩ |
        ⟨untracked, releasing⟩ | ⟨held, tracked, stale, releasing⟩
    · refine ⟨fun _ _ _ => by rw [releasing], fun missing => ?_,
        fun other found stale => ?_⟩
      · rw [tracked] at missing
        cases missing
      · rw [tracked] at found
        cases found
        exact absurd pooled stale
    · refine ⟨fun _ found _ => ?_, fun _ => releasing, fun _ found _ => ?_⟩
      · rw [untracked] at found
        cases found
      · rw [untracked] at found
        cases found
    · refine ⟨fun other found pooled => ?_, fun missing => ?_,
        fun _ _ _ => releasing⟩
      · rw [tracked] at found
        cases found
        exact absurd pooled stale
      · rw [tracked] at missing
        cases missing
  · intro name label first t acquiring between j other label' second u inside''
      again
    have within : j < s.pools.length := by rw [length]; exact inside''
    exact acquired_id_eq_iff provider adjust sound between inside' within
      acquiring again

theorem refcount?_exchange :
    let host := MemoryHost.ofParts (.ofNames ["ns"]) .empty .current
    let origin : Pools MemoryHost := start host 2
    let s := run MemoryHost.provider MemoryHost.adjust origin exchange
    0 < 2 ∧
    acquisitions MemoryHost.provider MemoryHost.adjust origin exchange 0 "ns" =
      2 ∧
    releases MemoryHost.provider MemoryHost.adjust origin exchange 0 "ns" = 1 ∧
    (s.pool 0).refcount? "ns" = some 1 := by
  intro host origin s
  have inside : 0 < 2 := by decide
  have acquired : acquisitions MemoryHost.provider MemoryHost.adjust origin
      exchange 0 "ns" = 2 := by decide +kernel
  have released : releases MemoryHost.provider MemoryHost.adjust origin
      exchange 0 "ns" = 1 := by decide +kernel
  obtain ⟨counted, -⟩ := run_keeps_accounts MemoryHost.provider
    MemoryHost.adjust host inside exchange
  have users := (counted "ns").2
  rw [acquired, released] at users
  exact ⟨inside, acquired, released, users⟩

end Accounts

end Pools
end InterfaceManager

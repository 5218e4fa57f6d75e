import InterfaceManager.Namespace.Pools
import InterfaceManager.Proofs.Namespace.Pooled
import InterfaceManager.Proofs.Namespace.Scope

/-!
# Pools that share their contexts' handles

The handles of all contexts are kept in one place, whichever pool created
them.  Pools side by side are sound if each of them is, and if no context is
in two of them.  A step acquires a context from one pool, gives one back to
one pool, or leaves contexts and pools alone; so a run keeps them sound.  A
context that its pool has given up is retired: it is closed, no pool knows
it, and this stays so.
-/

namespace InterfaceManager

open InterfaceManager.Action

namespace Pool

variable {contexts later : Contexts} {p q : Pool} {name : String}
  {context : Context}

theorem get?_of_lease? {lease : Lease} (found : p.lease? name = some lease) :
    p.get? name = some lease.context := by
  rw [get?, found, Option.map_some]

theorem Sound.named_of_get? (sound : p.Sound contexts)
    (held : p.get? name = some context) : context.name = name := by
  obtain ⟨lease, found, rfl⟩ := exists_lease_of_get? held
  exact sound.named found

theorem Sound.created_of_get? (sound : p.Sound contexts)
    (held : p.get? name = some context) :
    context.id < contexts.handles.length := by
  obtain ⟨lease, found, rfl⟩ := exists_lease_of_get? held
  exact sound.created found

/-- A pool stays sound when a context that it does not know is closed. -/
theorem Sound.close_unknown (sound : p.Sound contexts)
    (unknown : ∀ name held, p.get? name = some held → held.id ≠ context.id) :
    p.Sound (contexts.close context) where
  nodup := sound.nodup
  named := sound.named
  created := fun found => by
    simpa [Contexts.close] using sound.created found
  isOpen := fun found => by
    have before := sound.isOpen found
    rw [Contexts.isOpen] at before ⊢
    rw [Contexts.handle?_close, if_neg (unknown _ _ (get?_of_lease? found))]
    exact before
  distinct := sound.distinct
  used := sound.used

/-! ## Contexts that come and go -/

theorem Acquired.extends
    (acquired : Acquired name contexts p context later q) :
    later.Extends contexts := by
  cases acquired with
  | shared found => exact .refl contexts
  | created missing usable => exact contexts.extends_create _ _

/-- A context that an acquisition brings into the pool is a new one. -/
theorem Acquired.get?_cases
    (acquired : Acquired name contexts p context later q)
    {other : String} {held : Context} (holds : q.get? other = some held) :
    p.get? other = some held ∨ held.id = contexts.handles.length := by
  cases acquired with
  | shared found =>
    by_cases equal : other = name
    · subst equal
      simp only [get?, lease?_setRefcount, if_pos, found, Option.map_some]
        at holds ⊢
      exact Or.inl holds
    · simp only [get?, lease?_setRefcount, if_neg equal] at holds
      exact Or.inl holds
  | created missing usable =>
    by_cases equal : other = name
    · subst equal
      simp only [get?, lease?_insert missing, if_pos, Option.map_some,
        Option.some.injEq] at holds
      rw [← holds]
      exact Or.inr rfl
    · simp only [get?, lease?_insert missing, if_neg equal] at holds
      exact Or.inl holds

theorem Released.get?_of_later
    (released : Released context contexts p later q)
    {other : String} {held : Context} (holds : q.get? other = some held) :
    p.get? other = some held := by
  cases released with
  | kept found shared =>
    by_cases equal : other = context.name
    · subst equal
      simp only [get?, lease?_setRefcount, if_pos, found, Option.map_some]
        at holds ⊢
      exact holds
    · simpa only [get?, lease?_setRefcount, if_neg equal] using holds
  | destroyed found last =>
    by_cases equal : other = context.name
    · simp [get?, lease?_erase, equal] at holds
    · simpa only [get?, lease?_erase, if_neg equal] using holds

/-- A context stays in the pool, or it is the one that was given back by its
last user, and is closed. -/
theorem Released.get?_cases
    (released : Released context contexts p later q)
    {other : String} {held : Context} (holds : p.get? other = some held) :
    q.get? other = some held ∨
      q.get? other = none ∧ later = contexts.close held := by
  cases released with
  | kept found shared =>
    by_cases equal : other = context.name
    · subst equal
      simp only [get?, found, Option.map_some] at holds
      exact Or.inl (by simpa [get?, lease?_setRefcount, found] using holds)
    · exact Or.inl (by simpa [get?, lease?_setRefcount, equal] using holds)
  | destroyed found last =>
    by_cases equal : other = context.name
    · subst equal
      simp only [get?, found, Option.map_some, Option.some.injEq] at holds
      exact Or.inr ⟨by simp [get?, lease?_erase], by rw [holds]⟩
    · exact Or.inl (by simpa [get?, lease?_erase, equal] using holds)

theorem Released.length_handles
    (released : Released context contexts p later q) :
    later.handles.length = contexts.handles.length := by
  cases released with
  | kept found shared => rfl
  | destroyed found last => simp [Contexts.close]

theorem Released.handle?_of_closed
    (released : Released context contexts p later q) {other : Context}
    (closed : contexts.handle? other = none) :
    later.handle? other = none := by
  cases released with
  | kept found shared => exact closed
  | destroyed found last =>
    rw [Contexts.handle?_close]
    split
    · rfl
    · exact closed

/-- A release leaves the pools sound that know no context of this one. -/
theorem Released.sound_apart
    (released : Released context contexts p later q) {r : Pool}
    (sound : r.Sound contexts)
    (apart : ∀ {name other held held'}, p.get? name = some held →
      r.get? other = some held' → held'.id ≠ held.id) : r.Sound later := by
  cases released with
  | kept found shared => exact sound
  | destroyed found last =>
    exact sound.close_unknown fun _ _ holds =>
      apart (get?_of_lease? found) holds

end Pool

namespace Pooled

variable {context : Context} {p : Pooled η}

theorem outcome_release_untracked
    (untracked : p.pool.get? context.name = none) :
    outcome (release context) p =
      (.error (.panic
        s!"release of untracked namespace context '{context.name}'"), p) := by
  rw [Pool.get?, Option.map_eq_none_iff] at untracked
  simp [release, outcome_bind, untracked]

theorem outcome_release_stale {held : Context}
    (tracked : p.pool.get? context.name = some held)
    (stale : held.id ≠ context.id) :
    outcome (release context) p =
      (.error (.panic
        s!"release of stale namespace context '{context.name}'"), p) := by
  obtain ⟨lease, found, rfl⟩ := Pool.exists_lease_of_get? tracked
  simp [release, outcome_bind, found, stale]

theorem outcome_release_unused {lease : Lease}
    (found : p.pool.lease? context.name = some lease)
    (pooled : lease.context.id = context.id) (unused : lease.refcount = 0) :
    outcome (release context) p =
      (.error (.panic
        s!"namespace context '{context.name}' refcount underflow"), p) := by
  simp [release, outcome_bind, found, pooled, unused]

/-- Giving back the context of a sound pool succeeds. -/
theorem release_pooled (sound : p.pool.Sound p.contexts) {held : Context}
    (tracked : p.pool.get? context.name = some held)
    (pooled : held.id = context.id) :
    ∃ q, outcome (release context) p = (.ok (), q) ∧
      Pool.Released context p.contexts p.pool q.contexts q.pool := by
  obtain ⟨lease, found, rfl⟩ := Pool.exists_lease_of_get? tracked
  have used := sound.used found
  exact ⟨_, outcome_release found pooled used, released_released found used⟩

end Pooled

namespace Pools

/-- The pool with a number.  A pool that does not exist is empty. -/
def pool (s : Pools η) (i : Nat) : Pool := s.pools.getD i .empty

def pooled (s : Pools η) (i : Nat) : Pooled η :=
  ⟨s.session, s.contexts, s.pool i⟩

theorem lt_length_of_get? {s : Pools η} {i : Nat} {name : String}
    {held : Context} (holds : (s.pool i).get? name = some held) :
    i < s.pools.length := by
  refine Nat.lt_of_not_le fun outside => ?_
  have missing : s.pool i = .empty := by
    simp [pool, List.getD_eq_getElem?_getD, outside]
  rw [missing] at holds
  cases holds

/-- The pools after one of them has worked. -/
def withPooled (s : Pools η) (i : Nat) (p : Pooled η) : Pools η :=
  { s with
    session := p.session
    contexts := p.contexts
    pools := s.pools.set i p.pool }

def keeping (s : Pools η) (label : String) (context : Context) : Pools η :=
  { s with kept := s.kept.put label context }

def giving (s : Pools η) (label : String) : Pools η :=
  { s with kept := s.kept.without label }

variable {s t : Pools η} {i j : Nat} {name : String} {context : Context}

theorem pool_withPooled (s : Pools η) (i j : Nat) (p : Pooled η) :
    (s.withPooled i p).pool j =
      if j = i ∧ i < s.pools.length then p.pool else s.pool j := by
  simp only [pool, withPooled, List.getD_eq_getElem?_getD, List.getElem?_set]
  by_cases same : i = j
  · subst same
    by_cases exists_ : i < s.pools.length <;> simp [exists_]
  · have different : ¬ j = i := fun h => same h.symm
    simp [same, different]

/-- A pool that worked on the session alone is as it was. -/
theorem withPooled_session (s : Pools η) (i : Nat) (t : Session η) :
    s.withPooled i { s.pooled i with session := t } =
      { s with session := t } := by
  have same : s.pools.set i (s.pool i) = s.pools := by
    rw [pool, List.getD_eq_getElem?_getD]
    by_cases exists_ : i < s.pools.length
    · simp [exists_]
    · exact List.set_eq_of_length_le (Nat.le_of_not_lt exists_)
  simp only [withPooled, pooled, same]

section Steps

variable (provider : NamespaceProvider η) (adjust : η → ε → η)

@[simp] theorem outcome_onPool (act : Action (Pooled η) α) (s : Pools η) :
    outcome (onPool i act) s =
      ((outcome act (s.pooled i)).1,
        s.withPooled i (outcome act (s.pooled i)).2) := by
  simp [onPool, pooled, withPooled, pool]

@[simp] theorem outcome_inSession
    (act : Action (Session η) α) (s : Pools η) :
    outcome (inSession act) s =
      ((outcome act s.session).1,
        { s with session := (outcome act s.session).2 }) := by
  simp [inSession]

theorem outcome_step_acquired {label : String} {p : Pooled η}
    (acquiring : outcome (Pooled.acquire provider name) (s.pooled i) =
      (.ok context, p)) :
    outcome (step provider adjust (.acquire i name label)) s =
      (.ok (.context (some context)),
        (s.withPooled i p).keeping label context) := by
  simp [step, outcome_bind, outcome_map, Except.map, acquiring, keep, keeping]

theorem outcome_step_unacquired {label : String} {f : Fault} {p : Pooled η}
    (acquiring : outcome (Pooled.acquire provider name) (s.pooled i) =
      (.error f, p)) :
    outcome (step provider adjust (.acquire i name label)) s =
      (.error f, s.withPooled i p) := by
  simp [step, outcome_bind, acquiring]

theorem outcome_step_release {label : String}
    (kept : s.kept.at? label = some context) :
    outcome (step provider adjust (.release i label)) s =
      let ended :=
        outcome (Pooled.release context) ((s.giving label).pooled i)
      (ended.1.map fun _ => .done,
        (s.giving label).withPooled i ended.2) := by
  have dropped : (⟨s.session, s.contexts, s.pools, s.kept.without label,
      s.scopes⟩ : Pools η) = s.giving label := rfl
  simp only [step, outcome_bind, outcome_get, kept, outcome_modify,
    outcome_onPool, dropped]
  rcases outcome (Pooled.release context) ((s.giving label).pooled i)
    with ⟨f | ⟨⟩, p⟩ <;> rfl

end Steps

/-! ## Sound pools side by side -/

/-- Each pool is sound, and no two of them know the same context. -/
structure Sound (s : Pools η) : Prop where
  pools : ∀ i, (s.pool i).Sound s.contexts
  apart : ∀ {i j name other held held'}, (s.pool i).get? name = some held →
    (s.pool j).get? other = some held' → held.id = held'.id → i = j

theorem pool_start (host : η) (count i : Nat) :
    (start host count : Pools η).pool i = .empty := by
  simp [pool, start, List.getElem?_replicate]
  split <;> rfl

theorem sound_start (host : η) (count : Nat) :
    (start host count : Pools η).Sound := by
  refine ⟨fun i => ?_, fun holds _ _ => ?_⟩
  · rw [pool_start]
    exact Pool.sound_empty _
  · rw [pool_start] at holds
    cases holds

/-- A context is known under one name of one pool. -/
theorem Sound.get?_unique (sound : s.Sound) {held held' : Context}
    {other : String} (holds : (s.pool i).get? name = some held)
    (holds' : (s.pool j).get? other = some held') (same : held.id = held'.id) :
    i = j ∧ name = other := by
  have pools := sound.apart holds holds' same
  subst pools
  obtain ⟨lease, found, rfl⟩ := Pool.exists_lease_of_get? holds
  obtain ⟨lease', found', rfl⟩ := Pool.exists_lease_of_get? holds'
  exact ⟨rfl, (sound.pools i).distinct found found' same⟩

/-- A context that its pool has given up: it is closed, and no pool knows
it. -/
structure Retired (s : Pools η) (context : Context) : Prop where
  created : context.id < s.contexts.handles.length
  closed : s.contexts.handle? context = none
  unknown : ∀ {i name held}, (s.pool i).get? name = some held →
    held.id ≠ context.id

/-- What a step may do to the contexts and the pools. -/
inductive Moves (s : Pools η) : Pools η → Prop
  | stayed {t : Pools η} (contexts : t.contexts = s.contexts)
      (pools : t.pools = s.pools) : Moves s t
  | acquired {t : Pools η} {i : Nat} {name : String} {context : Context}
      {q : Pool} (pools : t.pools = s.pools.set i q)
      (acquired : Pool.Acquired name s.contexts (s.pool i) context
        t.contexts q) : Moves s t
  | released {t : Pools η} {i : Nat} {context : Context} {q : Pool}
      (pools : t.pools = s.pools.set i q)
      (released : Pool.Released context s.contexts (s.pool i) t.contexts q) :
      Moves s t

section Moves

variable {q : Pool} {held : Context}

theorem pool_eq_of_set (pools : t.pools = s.pools.set i q) (j : Nat) :
    t.pool j = if j = i ∧ i < s.pools.length then q else s.pool j := by
  have same := pool_withPooled s i j ⟨s.session, s.contexts, q⟩
  rw [pool, pools]
  exact same

/-- After an acquisition the pools know what they knew, and the pool that
made it may know a new context. -/
theorem get?_of_acquired (pools : t.pools = s.pools.set i q)
    (acquired : Pool.Acquired name s.contexts (s.pool i) context t.contexts q)
    {other : String} (holds : (t.pool j).get? other = some held) :
    (s.pool j).get? other = some held ∨
      j = i ∧ held.id = s.contexts.handles.length := by
  rw [pool_eq_of_set pools] at holds
  split at holds
  · next here =>
    obtain ⟨rfl, -⟩ := here
    rcases acquired.get?_cases holds with old | new
    · exact Or.inl old
    · exact Or.inr ⟨rfl, new⟩
  · exact Or.inl holds

theorem get?_of_released (pools : t.pools = s.pools.set i q)
    (released : Pool.Released context s.contexts (s.pool i) t.contexts q)
    {other : String} (holds : (t.pool j).get? other = some held) :
    (s.pool j).get? other = some held := by
  rw [pool_eq_of_set pools] at holds
  split at holds
  · next here =>
    obtain ⟨rfl, -⟩ := here
    exact released.get?_of_later holds
  · exact holds

namespace Moves

theorem length_pools (moves : s.Moves t) : t.pools.length = s.pools.length := by
  cases moves with
  | stayed contexts pools => rw [pools]
  | acquired pools acquired => rw [pools, List.length_set]
  | released pools released => rw [pools, List.length_set]

theorem sound (moves : s.Moves t) (sound : s.Sound) : t.Sound := by
  cases moves with
  | stayed contexts pools =>
    obtain ⟨session, _, _, kept, scopes⟩ := t
    subst contexts pools
    exact ⟨sound.pools, sound.apart⟩
  | @acquired i name context q pools acquired =>
    refine ⟨fun j => ?_, fun {j k _ _ held held'} holds holds' same => ?_⟩
    · rw [pool_eq_of_set pools]
      split
      · exact acquired.sound (sound.pools i)
      · exact (sound.pools j).extend acquired.extends
    · rcases get?_of_acquired pools acquired holds with old | ⟨rfl, new⟩ <;>
        rcases get?_of_acquired pools acquired holds' with old' | ⟨rfl, new'⟩
      · exact sound.apart old old' same
      · have created := (sound.pools j).created_of_get? old
        rw [same, new'] at created
        exact absurd created (Nat.lt_irrefl _)
      · have created := (sound.pools k).created_of_get? old'
        rw [← same, new] at created
        exact absurd created (Nat.lt_irrefl _)
      · rfl
  | @released i context q pools released =>
    refine ⟨fun j => ?_, fun holds holds' same => ?_⟩
    · rw [pool_eq_of_set pools]
      split
      · exact released.sound (sound.pools i)
      · next elsewhere =>
        refine released.sound_apart (sound.pools j) ?_
        intro name other held held' holds holds' same
        obtain rfl := sound.apart holds holds' same.symm
        exact elsewhere ⟨rfl, lt_length_of_get? holds⟩
    · exact sound.apart (get?_of_released pools released holds)
        (get?_of_released pools released holds') same

/-- A context in a pool stays there, or it is retired and its name is
free. -/
theorem pooled_or_retired (moves : s.Moves t) (sound : s.Sound)
    (holds : (s.pool i).get? name = some held) :
    (t.pool i).get? name = some held ∨
      (t.pool i).get? name = none ∧ t.Retired held := by
  have created := (sound.pools i).created_of_get? holds
  cases moves with
  | stayed contexts pools =>
    rw [pool, pools]
    exact Or.inl holds
  | @acquired j other context q pools acquired =>
    rw [pool_eq_of_set pools]
    split
    · next here =>
      rw [← here.1] at acquired
      exact Or.inl (acquired.get?_of_get? holds)
    · exact Or.inl holds
  | @released j context q pools released =>
    by_cases here : i = j ∧ j < s.pools.length
    · obtain ⟨rfl, inside⟩ := here
      have later : t.pool i = q := by
        rw [pool_eq_of_set pools, if_pos ⟨rfl, inside⟩]
      rcases released.get?_cases holds with kept | ⟨gone, closed⟩
      · rw [later]
        exact Or.inl kept
      · refine Or.inr ⟨by rw [later, gone], ?_, ?_, ?_⟩
        · rw [released.length_handles]
          exact created
        · rw [closed, Contexts.handle?_close, if_pos rfl]
        · intro k other held' holds' same
          obtain ⟨rfl, rfl⟩ := sound.get?_unique
            (get?_of_released pools released holds') holds same
          rw [later, gone] at holds'
          cases holds'
    · rw [pool_eq_of_set pools, if_neg here]
      exact Or.inl holds

theorem retired (moves : s.Moves t) (retired : s.Retired context) :
    t.Retired context := by
  cases moves with
  | stayed contexts pools =>
    obtain ⟨session, _, _, kept, scopes⟩ := t
    subst contexts pools
    exact ⟨retired.created, retired.closed, retired.unknown⟩
  | acquired pools acquired =>
    have extension := acquired.extends
    refine ⟨Nat.lt_of_lt_of_le retired.created extension.length_le, ?_, ?_⟩
    · rw [extension.handle?_eq retired.created]
      exact retired.closed
    · intro j name held holds
      rcases get?_of_acquired pools acquired holds with old | ⟨-, new⟩
      · exact retired.unknown old
      · rw [new]
        exact Nat.ne_of_gt retired.created
  | released pools released =>
    refine ⟨?_, released.handle?_of_closed retired.closed, ?_⟩
    · rw [released.length_handles]
      exact retired.created
    · intro j name held holds
      exact retired.unknown (get?_of_released pools released holds)

end Moves
end Moves

/-! ## Every step moves -/

section Run

variable (provider : NamespaceProvider η) (adjust : η → ε → η)

/-- An acquisition gives a context to its pool, or it fails as opening the
handle did and changes nothing but the session. -/
theorem step_acquire_cases (i : Nat) (name label : String) (s : Pools η) :
    (∃ context p,
      outcome (step provider adjust (.acquire i name label)) s =
        (.ok (.context (some context)),
          (s.withPooled i p).keeping label context) ∧
      Pool.Acquired name s.contexts (s.pool i) context p.contexts p.pool) ∨
    ∃ f t, (s.pool i).get? name = none ∧ name ≠ "" ∧
      outcome (provider.openHandle name)
        (s.session.noting (.contextPrepared name)) = (.error f, t) ∧
      outcome (step provider adjust (.acquire i name label)) s =
        (.error f, { s with session := t }) := by
  rcases Pooled.acquire_cases provider name (s.pooled i)
    with ⟨context, p, acquiring, acquired⟩ |
      ⟨f, t, missing, named, opening, acquiring⟩
  · exact Or.inl ⟨context, p,
      outcome_step_acquired provider adjust acquiring, acquired⟩
  · have untracked : (s.pool i).get? name = none :=
      Option.map_eq_none_iff.mpr missing
    have unacquired :
        outcome (step provider adjust (.acquire i name label)) s =
          (.error f, s.withPooled i { s.pooled i with session := t }) :=
      outcome_step_unacquired provider adjust acquiring
    rw [withPooled_session] at unacquired
    exact Or.inr ⟨f, t, untracked, named, opening, unacquired⟩

/-- A context that is given back to its pool is released.  Any other context
panics, and nothing changes but that it is no longer kept. -/
theorem step_release_cases (sound : s.Sound) (i : Nat) {label : String}
    (kept : s.kept.at? label = some context) :
    (∃ held p, (s.pool i).get? context.name = some held ∧
      held.id = context.id ∧
      outcome (step provider adjust (.release i label)) s =
        (.ok .done, (s.giving label).withPooled i p) ∧
      Pool.Released context s.contexts (s.pool i) p.contexts p.pool) ∨
    ((s.pool i).get? context.name = none ∧
      outcome (step provider adjust (.release i label)) s =
        (.error (.panic
          s!"release of untracked namespace context '{context.name}'"),
          s.giving label)) ∨
    ∃ held, (s.pool i).get? context.name = some held ∧
      held.id ≠ context.id ∧
      outcome (step provider adjust (.release i label)) s =
        (.error (.panic
          s!"release of stale namespace context '{context.name}'"),
          s.giving label) := by
  have unchanged : (s.giving label).withPooled i ((s.giving label).pooled i) =
      s.giving label := (s.giving label).withPooled_session i s.session
  rcases tracked : (s.pool i).get? context.name with _ | held
  · refine Or.inr (Or.inl ⟨rfl, ?_⟩)
    rw [outcome_step_release provider adjust kept,
      Pooled.outcome_release_untracked (p := (s.giving label).pooled i) tracked]
    exact Prod.ext rfl unchanged
  · by_cases pooled : held.id = context.id
    · obtain ⟨p, releasing, released⟩ := Pooled.release_pooled
        (p := (s.giving label).pooled i) (sound.pools i) tracked pooled
      refine Or.inl ⟨held, p, rfl, pooled, ?_, released⟩
      rw [outcome_step_release provider adjust kept, releasing]
      rfl
    · refine Or.inr (Or.inr ⟨held, rfl, pooled, ?_⟩)
      rw [outcome_step_release provider adjust kept,
        Pooled.outcome_release_stale (p := (s.giving label).pooled i) tracked
          pooled]
      exact Prod.ext rfl unchanged

theorem outcome_step_release_missing (i : Nat) {label : String}
    (missing : s.kept.at? label = none) :
    outcome (step provider adjust (.release i label)) s = (.ok .done, s) := by
  simp [step, outcome_bind, missing]

/-- What happens inside a namespace keeps what notices, switches and
adjustments keep. -/
theorem perform_keeps {I : Session η → Prop}
    (notes : ∀ n, (Session.note n).Keeps I)
    (enters : ∀ handle, (provider.enter handle).Keeps I)
    (exits : ∀ state, (provider.exit state).Keeps I)
    (adjusts : ∀ s change, I s → I { s with host := adjust s.host change })
    (contexts : Contexts) (kept : Labelled Context) (inside : Inside ε) :
    (perform provider adjust contexts kept inside).Keeps I := by
  induction inside with
  | look => exact Keeps.get.bind fun _ => .pure I _
  | fail e => exact .fail I e
  | panic message => exact .panic I message
  | adjust change =>
    refine Keeps.bind (.modify fun s hs => ?_) fun _ => .pure I _
    exact adjusts s change hs
  | run label operation inner ih =>
    rw [perform]
    split
    · exact runInNamespace_keeps notes enters exits _ _ _ ih
    · exact .pure I _

/-- A property that what happens on the session keeps, and that does not
depend on what is kept under labels, is kept by every step that does not work
on a pool. -/
theorem step_keeps {I : Session η → Prop} {J : Pools η → Prop}
    (notes : ∀ n, (Session.note n).Keeps I)
    (enters : ∀ handle, (provider.enter handle).Keeps I)
    (exits : ∀ state, (provider.exit state).Keeps I)
    (adjusts : ∀ s change, I s → I { s with host := adjust s.host change })
    (within : ∀ {β : Type} (act : Action (Session η) β), act.Keeps I →
      (inSession act).Keeps J)
    (labels : ∀ s kept scopes, J s → J { s with kept, scopes })
    {next : PoolsStep ε}
    (acquires : ∀ i name label, next ≠ .acquire i name label)
    (releases : ∀ i label, next ≠ .release i label) :
    (step provider adjust next).Keeps J := by
  have keeps : ∀ label context,
      (keep label context : Action (Pools η) Unit).Keeps J :=
    fun label context => .modify fun s hs => labels s _ _ hs
  have leaves : ∀ scope : Scope, (inSession (scope.exit provider)).Keeps J :=
    fun scope => within _ (Scope.exit_keeps notes exits scope)
  have drops : ∀ scope : Scope, (inSession (scope.drop provider)).Keeps J :=
    fun scope => within _ (Scope.drop_keeps notes exits scope)
  cases next with
  | acquire i name label => exact absurd rfl (acquires i name label)
  | release i label => exact absurd rfl (releases i label)
  | find i name label =>
    refine Keeps.get.bind fun s => ?_
    split
    · exact (keeps _ _).bind fun _ => .pure J _
    · exact .pure J _
  | share label other =>
    refine Keeps.get.bind fun s => ?_
    split
    · exact (keeps _ _).bind fun _ => .pure J _
    · exact .pure J _
  | run label operation inner =>
    refine Keeps.get.bind fun s => ?_
    have performs := perform_keeps provider adjust notes enters exits adjusts
      s.contexts s.kept (.run label operation inner)
    exact (within _ performs).bind fun _ => .pure J _
  | enter label operation scope =>
    refine Keeps.get.bind fun s => ?_
    dsimp only
    split
    · next context _ =>
      have switches := within _ (Scope.enter_keeps notes enters context
        (s.contexts.handle? context) operation)
      refine switches.bind fun entered => ?_
      refine Keeps.bind (.modify fun s hs => labels s _ _ hs) fun _ => ?_
      split
      · exact (drops _).bind fun _ => .pure J _
      · exact .pure J _
    · exact .pure J _
  | leave scope =>
    refine Keeps.get.bind fun s => ?_
    split
    · refine Keeps.bind (.modify fun s hs => labels s _ _ hs) fun _ => ?_
      exact (leaves _).bind fun _ => .pure J _
    · exact .pure J _
  | drop scope =>
    refine Keeps.get.bind fun s => ?_
    split
    · refine Keeps.bind (.modify fun s hs => labels s _ _ hs) fun _ => ?_
      exact (drops _).bind fun _ => .pure J _
    · exact .pure J _
  | adjust change =>
    have changes : (inSession (modify fun s : Session η =>
        { s with host := adjust s.host change })).Keeps J :=
      within _ (.modify fun s hs => adjusts s change hs)
    exact changes.bind fun _ => .pure J _

/-- Steps that neither acquire nor release leave contexts and pools alone. -/
theorem outcome_step_stays {next : PoolsStep ε}
    (acquires : ∀ i name label, next ≠ .acquire i name label)
    (releases : ∀ i label, next ≠ .release i label) (s : Pools η) :
    (outcome (step provider adjust next) s).2.contexts = s.contexts ∧
      (outcome (step provider adjust next) s).2.pools = s.pools := by
  have anything : ∀ {α : Type} (act : Action (Session η) α),
      act.Keeps fun _ => True := fun _ _ _ => trivial
  refine step_keeps provider adjust (I := fun _ => True)
    (J := fun t => t.contexts = s.contexts ∧ t.pools = s.pools)
    (fun _ => anything _) (fun _ => anything _) (fun _ => anything _)
    (fun _ _ _ => trivial) (fun act _ => ?_) (fun _ _ _ same => same)
    acquires releases s ⟨rfl, rfl⟩
  intro t same
  rw [outcome_inSession]
  exact same

/-- Every step acquires one context, releases one, or leaves contexts and
pools alone. -/
theorem step_moves (sound : s.Sound) (next : PoolsStep ε) :
    s.Moves (outcome (step provider adjust next) s).2 := by
  by_cases acquires : ∃ i name label, next = .acquire i name label
  · obtain ⟨i, name, label, rfl⟩ := acquires
    rcases step_acquire_cases provider adjust i name label s
      with ⟨context, p, acquiring, acquired⟩ | ⟨f, t, -, -, -, acquiring⟩
    · rw [acquiring]
      exact .acquired rfl acquired
    · rw [acquiring]
      exact .stayed rfl rfl
  by_cases releases : ∃ i label, next = .release i label
  · obtain ⟨i, label, rfl⟩ := releases
    rcases kept : s.kept.at? label with _ | context
    · rw [outcome_step_release_missing provider adjust i kept]
      exact .stayed rfl rfl
    · rcases step_release_cases provider adjust sound i kept
        with ⟨held, p, -, -, releasing, released⟩ | ⟨-, releasing⟩ |
          ⟨held, -, -, releasing⟩
      · rw [releasing]
        exact .released rfl released
      · rw [releasing]
        exact .stayed rfl rfl
      · rw [releasing]
        exact .stayed rfl rfl
  have stays := outcome_step_stays provider adjust
    (fun i name label same => acquires ⟨i, name, label, same⟩)
    (fun i label same => releases ⟨i, label, same⟩) s
  exact .stayed stays.1 stays.2

/-! ## Runs -/

theorem run_cons (s : Pools η) (next : PoolsStep ε)
    (steps : List (PoolsStep ε)) :
    run provider adjust s (next :: steps) =
      run provider adjust (outcome (step provider adjust next) s).2 steps :=
  rfl

theorem run_append (s : Pools η) (steps more : List (PoolsStep ε)) :
    run provider adjust s (steps ++ more) =
      run provider adjust (run provider adjust s steps) more :=
  List.foldl_append

theorem run_sound (sound : s.Sound) (steps : List (PoolsStep ε)) :
    (run provider adjust s steps).Sound := by
  induction steps generalizing s with
  | nil => exact sound
  | cons next steps ih =>
    exact ih ((step_moves provider adjust sound next).sound sound)

theorem length_run (sound : s.Sound) (steps : List (PoolsStep ε)) :
    (run provider adjust s steps).pools.length = s.pools.length := by
  induction steps generalizing s with
  | nil => rfl
  | cons next steps ih =>
    have moves := step_moves provider adjust sound next
    rw [run_cons, ih (moves.sound sound), moves.length_pools]

/-- A retired context stays retired. -/
theorem run_retired (sound : s.Sound) (retired : s.Retired context)
    (steps : List (PoolsStep ε)) :
    (run provider adjust s steps).Retired context := by
  induction steps generalizing s with
  | nil => exact retired
  | cons next steps ih =>
    have moves := step_moves provider adjust sound next
    exact ih (moves.sound sound) (moves.retired retired)

/-- A context in a pool is there after any run, or it is retired. -/
theorem run_pooled_or_retired (sound : s.Sound)
    (holds : (s.pool i).get? name = some context)
    (steps : List (PoolsStep ε)) :
    ((run provider adjust s steps).pool i).get? name = some context ∨
      (run provider adjust s steps).Retired context := by
  induction steps generalizing s with
  | nil => exact Or.inl holds
  | cons next steps ih =>
    have moves := step_moves provider adjust sound next
    rcases moves.pooled_or_retired sound holds with kept | ⟨-, retired⟩
    · exact ih (moves.sound sound) kept
    · exact Or.inr
        (run_retired provider adjust (moves.sound sound) retired steps)

/-- As long as its name is tracked, a context stays in its pool. -/
theorem run_get?_of_lasting (sound : s.Sound)
    (holds : (s.pool i).get? name = some context)
    (steps : List (PoolsStep ε))
    (lasting : ∀ earlier, earlier <+: steps →
      ((run provider adjust s earlier).pool i).get? name ≠ none) :
    ((run provider adjust s steps).pool i).get? name = some context := by
  induction steps generalizing s with
  | nil => exact holds
  | cons next steps ih =>
    have moves := step_moves provider adjust sound next
    rcases moves.pooled_or_retired sound holds with kept | ⟨gone, -⟩
    · refine ih (moves.sound sound) kept fun earlier starts => ?_
      exact lasting (next :: earlier) (List.cons_prefix_cons.mpr ⟨rfl, starts⟩)
    · have first : [next] <+: next :: steps :=
        List.cons_prefix_cons.mpr ⟨rfl, List.nil_prefix⟩
      exact absurd gone (lasting [next] first)

end Run

end Pools
end InterfaceManager

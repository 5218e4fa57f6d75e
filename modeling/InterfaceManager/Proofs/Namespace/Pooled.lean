import InterfaceManager.Proofs.Namespace.Leasing
import InterfaceManager.Proofs.Remarks

/-!
# The actions of a pool

Acquiring and releasing as actions, in terms of what they do to the leases
and the handles.  An acquisition that fails leaves both as they were, a
release of a pooled context succeeds, and it undoes the acquisition that
gave the context.
-/

namespace InterfaceManager
namespace Pooled

open InterfaceManager.Action

/-- The state with one more notice. -/
def noting (p : Pooled η) (n : Notice) : Pooled η :=
  { p with session := p.session.noting n }

@[simp] theorem outcome_note (n : Notice) (p : Pooled η) :
    outcome (note n) p = (.ok (), p.noting n) := by
  simp [note, inSession, noting]

section Acquire

variable (provider : NamespaceProvider η) {name : String} {p : Pooled η}

theorem outcome_acquire_shared {lease : Lease}
    (found : p.pool.lease? name = some lease) :
    outcome (acquire provider name) p =
      (.ok lease.context,
        { session :=
            p.session.noting (.contextReused name (lease.refcount + 1))
          contexts := p.contexts
          pool := p.pool.setRefcount name (lease.refcount + 1) }) := by
  simp [acquire, outcome_bind, outcome_map, found, noting, Except.map]

/-- A new context for `name`, after `session`, with one user. -/
def added (p : Pooled η) (name : String) (handle : Option Handle)
    (session : Session η) : Pooled η where
  session := session.noting (.contextCreated name)
  contexts := (p.contexts.create name handle).2
  pool := p.pool.insert name ⟨(p.contexts.create name handle).1, 1⟩

theorem outcome_acquire_default (missing : p.pool.lease? "" = none) :
    outcome (acquire provider "") p =
      (.ok (p.contexts.create "" none).1, p.added "" none p.session) := by
  simp [acquire, outcome_bind, outcome_map, missing, addContext, noting,
    added, Except.map]

theorem outcome_acquire_opened (missing : p.pool.lease? name = none)
    (named : name ≠ "") {handle : Handle} {t : Session η}
    (opening : outcome (provider.openHandle name)
      (p.session.noting (.contextPrepared name)) = (.ok handle, t)) :
    outcome (acquire provider name) p =
      (.ok (p.contexts.create name (some handle)).1,
        p.added name (some handle) t) := by
  simp [acquire, outcome_bind, missing, named, outcome_map, inSession,
    noting, opening, addContext, added, Except.map]

theorem outcome_acquire_unopened (missing : p.pool.lease? name = none)
    (named : name ≠ "") {f : Fault} {t : Session η}
    (opening : outcome (provider.openHandle name)
      (p.session.noting (.contextPrepared name)) = (.error f, t)) :
    outcome (acquire provider name) p =
      (.error f, { p with session := t }) := by
  simp [acquire, outcome_bind, missing, named, inSession, noting, opening]

/-- An acquisition takes a lease, or it fails as opening the handle did and
leaves the contexts and the pool as they were. -/
theorem acquire_cases (provider : NamespaceProvider η) (name : String)
    (p : Pooled η) :
    (∃ context q, outcome (acquire provider name) p = (.ok context, q) ∧
      Pool.Acquired name p.contexts p.pool context q.contexts q.pool) ∨
    ∃ f t, p.pool.lease? name = none ∧ name ≠ "" ∧
      outcome (provider.openHandle name)
        (p.session.noting (.contextPrepared name)) = (.error f, t) ∧
      outcome (acquire provider name) p =
        (.error f, { p with session := t }) := by
  rcases Option.eq_none_or_eq_some (p.pool.lease? name)
    with missing | ⟨lease, found⟩
  · by_cases default : name = ""
    · subst default
      exact Or.inl ⟨_, _, outcome_acquire_default provider missing,
        .created missing (Or.inl rfl)⟩
    · rcases opening : outcome (provider.openHandle name)
        (p.session.noting (.contextPrepared name)) with ⟨f | handle, t⟩
      · exact Or.inr ⟨f, t, missing, default, rfl,
          outcome_acquire_unopened provider missing default opening⟩
      · exact Or.inl ⟨_, _,
          outcome_acquire_opened provider missing default opening,
          .created missing (Or.inr rfl)⟩
  · exact Or.inl ⟨_, _, outcome_acquire_shared provider found,
      .shared found⟩

theorem acquire_remarks {provider : NamespaceProvider η}
    (discreet : ∀ name, (provider.openHandle name).Discreet) (name : String)
    (p : Pooled η) :
    (outcome (acquire provider name) p).2.session.remarks =
      p.session.remarks := by
  rcases Option.eq_none_or_eq_some (p.pool.lease? name)
    with missing | ⟨lease, found⟩
  · by_cases default : name = ""
    · subst default
      rw [outcome_acquire_default provider missing]
      exact Session.remarks_noting_passing rfl
    · have opened :=
        discreet name (p.session.noting (.contextPrepared name))
      rw [Session.remarks_noting_passing rfl] at opened
      rcases houtcome : outcome (provider.openHandle name)
        (p.session.noting (.contextPrepared name)) with ⟨f | handle, t⟩
      · rw [houtcome] at opened
        rw [outcome_acquire_unopened provider missing default houtcome]
        exact opened
      · rw [houtcome] at opened
        rw [outcome_acquire_opened provider missing default houtcome]
        exact (Session.remarks_noting_passing rfl).trans opened
  · rw [outcome_acquire_shared provider found]
    exact Session.remarks_noting_passing rfl

end Acquire

/-! ## Releasing -/

/-- The session after the last user of `held` has given back `context`. -/
def closing (p : Pooled η) (context held : Context) : Session η :=
  let released := p.session.noting (.contextReleased context.name 0)
  let closed :=
    if (p.contexts.handle? held).isSome then
      released.noting (.handleClosed held.name)
    else released
  closed.noting (.contextDestroyed context.name)

theorem host_closing (p : Pooled η) (context held : Context) :
    (p.closing context held).host = p.session.host := by
  rw [closing]
  split <;> rfl

/-- The state after a user of a lease has given back `context`. -/
def released (p : Pooled η) (context : Context) (lease : Lease) : Pooled η :=
  if lease.refcount = 1 then
    { session := p.closing context lease.context
      contexts := p.contexts.close lease.context
      pool := p.pool.erase context.name }
  else
    { session := p.session.noting
        (.contextReleased context.name (lease.refcount - 1))
      contexts := p.contexts
      pool := p.pool.setRefcount context.name (lease.refcount - 1) }

theorem host_released (p : Pooled η) (context : Context) (lease : Lease) :
    (p.released context lease).session.host = p.session.host := by
  rw [released]
  split
  · exact host_closing p context lease.context
  · rfl

section Release

variable {context : Context} {lease : Lease} {p : Pooled η}

/-- Giving back a context that is in use succeeds. -/
theorem outcome_release
    (found : p.pool.lease? context.name = some lease)
    (pooled : lease.context.id = context.id) (used : 0 < lease.refcount) :
    outcome (release context) p = (.ok (), p.released context lease) := by
  by_cases last : lease.refcount = 1
  · cases opened : (p.contexts.handle? lease.context).isSome with
    | false =>
      have closed : p.contexts.handle? lease.context = none := by
        simpa using opened
      simp [release, close, outcome_bind, found, pooled, last, noting,
        released, closing, opened, Contexts.close_eq_self closed]
    | true =>
      simp [release, close, outcome_bind, found, pooled, last, noting,
        released, closing, opened]
  · have unused : ¬ lease.refcount = 0 := by omega
    have remaining : ¬ lease.refcount - 1 = 0 := by omega
    simp [release, outcome_bind, found, pooled, last, unused, remaining,
      noting, released]

theorem released_released
    (found : p.pool.lease? context.name = some lease)
    (used : 0 < lease.refcount) :
    Pool.Released context p.contexts p.pool (p.released context lease).contexts
      (p.released context lease).pool := by
  by_cases last : lease.refcount = 1
  · rw [released, if_pos last]
    exact .destroyed found last
  · have shared : 1 < lease.refcount := by omega
    rw [released, if_neg last]
    exact .kept found shared

theorem remarks_released (p : Pooled η) (context : Context) (lease : Lease) :
    (p.released context lease).session.remarks = p.session.remarks := by
  by_cases last : lease.refcount = 1
  · rw [released, if_pos last, closing]
    split
    · rw [Session.remarks_noting_passing rfl,
        Session.remarks_noting_passing rfl,
        Session.remarks_noting_passing rfl]
    · rw [Session.remarks_noting_passing rfl,
        Session.remarks_noting_passing rfl]
  · rw [released, if_neg last]
    exact Session.remarks_noting_passing rfl

end Release

/-- Giving back what has just been acquired leaves every lease as it was
before, and the handles of the earlier contexts too. -/
theorem released_of_acquired
    {name : String} {cs : Contexts} {before : Pool} {context : Context}
    {p : Pooled η} (sound : before.Sound cs)
    (acquired : Pool.Acquired name cs before context p.contexts p.pool) :
    ∃ lease, p.pool.lease? context.name = some lease ∧
      lease.context = context ∧ 0 < lease.refcount ∧
      (p.released context lease).pool = before ∧
      (p.released context lease).contexts.Extends cs := by
  obtain ⟨session, later, pool⟩ := p
  cases acquired with
  | @shared lease found =>
    have hname : lease.context.name = name := sound.named found
    have used := sound.used found
    have again : (before.setRefcount name (lease.refcount + 1)).lease?
        lease.context.name =
          some { lease with refcount := lease.refcount + 1 } := by
      simp [Pool.lease?_setRefcount, hname, found]
    have kept : ¬ lease.refcount + 1 = 1 := by omega
    refine ⟨_, again, rfl, Nat.succ_pos _, ?_, ?_⟩
    · rw [released, if_neg kept]
      calc
        (before.setRefcount name (lease.refcount + 1)).setRefcount
            lease.context.name (lease.refcount + 1 - 1) =
          before.setRefcount name lease.refcount := by
            rw [hname, Nat.add_sub_cancel, Pool.setRefcount_setRefcount]
        _ = before := Pool.setRefcount_self sound.nodup found
    · rw [released, if_neg kept]
      exact .refl _
  | @created handle missing usable =>
    have added : (before.insert name
        ⟨(cs.create name handle).1, 1⟩).lease?
          (cs.create name handle).1.name =
        some ⟨(cs.create name handle).1, 1⟩ := by
      have hname : (cs.create name handle).1.name = name := rfl
      rw [hname, Pool.lease?_insert missing, if_pos rfl]
    exact ⟨_, added, rfl, Nat.one_pos, Pool.erase_insert missing _,
      cs.extends_close_create name handle⟩

end Pooled
end InterfaceManager

import InterfaceManager.Proofs.Namespace.Calls

/-!
# Handles lead where their contexts say

A provider that opens handles under the names it is asked for gives every
context in a pool a handle of its own name.  Giving contexts back can only
close handles, so this holds of a pool for as long as it is used.
-/

namespace InterfaceManager

open InterfaceManager.Action

/-- The context is the one called `name`, and so is its handle while it is
open. -/
def Contexts.LeadsTo (contexts : Contexts) (context : Context)
    (name : String) : Prop :=
  context.name = name ∧
    ∀ handle, contexts.handle? context = some handle → handle.name = name

/-- The open handles of the contexts in a pool have the names of these
contexts. -/
def Pool.Faithful (contexts : Contexts) (p : Pool) : Prop :=
  ∀ name lease, p.lease? name = some lease →
    ∀ handle, contexts.handle? lease.context = some handle →
      handle.name = name

namespace Pool.Faithful

variable {contexts : Contexts} {p : Pool} {name : String}

theorem empty (contexts : Contexts) : Pool.empty.Faithful contexts := by
  intro name lease found
  simp at found

theorem leadsTo (faithful : p.Faithful contexts) (sound : p.Sound contexts)
    {context : Context} (tracked : p.get? name = some context) :
    contexts.LeadsTo context name := by
  obtain ⟨lease, found, rfl⟩ := exists_lease_of_get? tracked
  exact ⟨sound.named found, faithful _ _ found⟩

theorem setRefcount (faithful : p.Faithful contexts) (name : String)
    (refcount : Nat) : (p.setRefcount name refcount).Faithful contexts := by
  intro other lease found handle opened
  rw [lease?_setRefcount] at found
  by_cases same : other = name
  · rw [if_pos same, Option.map_eq_some_iff] at found
    obtain ⟨old, hold, rfl⟩ := found
    exact faithful _ _ hold handle opened
  · rw [if_neg same] at found
    exact faithful _ _ found handle opened

theorem erase (faithful : p.Faithful contexts) (name : String) :
    (p.erase name).Faithful contexts := by
  intro other lease found handle opened
  rw [lease?_erase] at found
  by_cases same : other = name
  · rw [if_pos same] at found
    cases found
  · rw [if_neg same] at found
    exact faithful _ _ found handle opened

theorem close (faithful : p.Faithful contexts) (closed : Context) :
    p.Faithful (contexts.close closed) := by
  intro name lease found handle opened
  rw [Contexts.handle?_close] at opened
  by_cases same : lease.context.id = closed.id
  · rw [if_pos same] at opened
    cases opened
  · rw [if_neg same] at opened
    exact faithful _ _ found handle opened

theorem insert (faithful : p.Faithful contexts) (sound : p.Sound contexts)
    (missing : p.lease? name = none) {handle : Option Handle}
    (named : ∀ opened, handle = some opened → opened.name = name) :
    (p.insert name ⟨(contexts.create name handle).1, 1⟩).Faithful
      (contexts.create name handle).2 := by
  intro other lease found opened hopened
  rw [lease?_insert missing] at found
  by_cases same : other = name
  · rw [if_pos same] at found
    cases found
    rw [Contexts.handle?_create] at hopened
    exact (named opened hopened).trans same.symm
  · rw [if_neg same] at found
    rw [(contexts.extends_create name handle).handle?_eq
      (sound.created found)] at hopened
    exact faithful _ _ found opened hopened

end Pool.Faithful

namespace Pooled

theorem acquire_faithful {provider : NamespaceProvider η}
    (names : ∀ {name s handle t}, outcome (provider.openHandle name) s =
      (.ok handle, t) → handle.name = name)
    {p : Pooled η} (sound : p.pool.Sound p.contexts)
    (faithful : p.pool.Faithful p.contexts) (name : String) :
    (outcome (acquire provider name) p).2.pool.Faithful
      (outcome (acquire provider name) p).2.contexts := by
  rcases Option.eq_none_or_eq_some (p.pool.lease? name)
    with missing | ⟨lease, found⟩
  · by_cases default : name = ""
    · subst default
      rw [outcome_acquire_default provider missing]
      exact faithful.insert sound missing fun opened h => by cases h
    · rcases opening : outcome (provider.openHandle name)
        (p.session.noting (.contextPrepared name)) with ⟨f | handle, t⟩
      · rw [outcome_acquire_unopened provider missing default opening]
        exact faithful
      · rw [outcome_acquire_opened provider missing default opening]
        refine faithful.insert sound missing fun opened h => ?_
        cases h
        exact names opening
  · rw [outcome_acquire_shared provider found]
    exact faithful.setRefcount name _

theorem release_faithful (context : Context) :
    (release context : Action (Pooled η) Unit).Keeps
      fun p => p.pool.Faithful p.contexts := by
  refine release_keeps ?_ ?_ ?_ ?_ context
  · intro n p faithful
    rw [outcome_note]
    exact faithful
  · intro p name refcount faithful
    exact faithful.setRefcount name refcount
  · intro p held faithful
    exact faithful.close held
  · intro p name faithful
    exact faithful.erase name

end Pooled
end InterfaceManager

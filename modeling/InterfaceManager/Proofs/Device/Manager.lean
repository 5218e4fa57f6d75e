import InterfaceManager.Device.Fleet
import InterfaceManager.Proofs.Backend
import InterfaceManager.Proofs.Namespace.Scope

/-!
# Managers at work

The actions of a manager in terms of what they are made of: those of its
pool, of its session and of its registry.  Running something inside a
namespace changes nothing but the session.
-/

namespace InterfaceManager

open InterfaceManager.Action

namespace Manager

def withPooled (m : Manager η) (p : Pooled η) : Manager η :=
  { m with toPooled := p }

def withSession (m : Manager η) (t : Session η) : Manager η :=
  { m with session := t }

@[simp] theorem outcome_onPool (act : Action (Pooled η) α) (m : Manager η) :
    outcome (onPool act) m =
      ((outcome act m.toPooled).1,
        m.withPooled (outcome act m.toPooled).2) := by
  simp [onPool, withPooled]

@[simp] theorem outcome_inSession
    (act : Action (Session η) α) (m : Manager η) :
    outcome (inSession act) m =
      ((outcome act m.session).1,
        m.withSession (outcome act m.session).2) := by
  simp [inSession, Pooled.inSession, withPooled, withSession]

@[simp] theorem outcome_note (n : Notice) (m : Manager η) :
    outcome (note n) m = (.ok (), m.withSession (m.session.noting n)) := by
  simp [note]

@[simp] theorem outcome_onRegistry
    (change : Registry → α × Registry) (m : Manager η) :
    outcome (onRegistry change) m =
      (.ok (change m.registry).1,
        { m with registry := (change m.registry).2 }) := rfl

theorem outcome_inSpan
    (span : Span) (act : Action (Manager η) α) (m : Manager η) :
    outcome (inSpan span act) m =
      let inner := outcome act (m.withSession (m.session.enterSpan span))
      (inner.1, inner.2.withSession inner.2.session.leaveSpan) := by
  simp [inSpan, outcome_bind, withSession]

section Within

variable (backend : Backend η ε) (context : Context) (operation : String)
  {act : Action (Session η) α}

theorem outcome_within (act : Action (Session η) α) (m : Manager η) :
    outcome (within backend context operation act) m =
      let ran := outcome (runInNamespace backend.provider context
        (m.contexts.handle? context) operation act) m.session
      (ran.1, m.withSession ran.2) := by
  simp [within, outcome_bind]

theorem within_answers (answers : backend.Answers)
    (hact : act.Answers) : (within backend context operation act).Answers := by
  intro m message
  rw [outcome_within]
  exact runInNamespace_answers answers.enter answers.exit context _ operation
    hact m.session message

theorem within_keeps_remarks (discreet : backend.Discreet)
    {I : List Notice → Prop} (keeps : act.Keeps fun s => I s.remarks)
    {m : Manager η} (isOpen : m.contexts.isOpen context = true)
    (before : I m.session.remarks) :
    I (outcome (within backend context operation act) m).2.session.remarks := by
  rw [outcome_within]
  rw [Contexts.isOpen, Bool.or_eq_true] at isOpen
  exact runInNamespace_keeps_remarks discreet.enter discreet.exit isOpen
    operation keeps m.session before

end Within

end Manager
end InterfaceManager

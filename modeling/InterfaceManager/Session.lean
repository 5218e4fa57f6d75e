import InterfaceManager.Action
import InterfaceManager.Notice

/-!
# Sessions

The state that the operations of the library share: the host, which is
whatever namespaces and interfaces live in, and the journal of notices.
-/

namespace InterfaceManager

/-- A host of type `η` and the journal kept while working on it. -/
structure Session (η : Type) where
  host : η
  journal : Journal

namespace Session

/-- A session on `host` without notices. -/
def start (host : η) : Session η := ⟨host, .empty⟩

def note (n : Notice) : Action (Session η) Unit :=
  modify fun s => { s with journal := s.journal.take n }

/-- The session inside a further span. -/
def enterSpan (span : Span) (s : Session η) : Session η :=
  { s with journal := s.journal.enter span }

/-- The session outside its innermost span. -/
def leaveSpan (s : Session η) : Session η :=
  { s with journal := s.journal.leave }

end Session

end InterfaceManager

import InterfaceManager.Session

/-!
# Outcomes of composed actions

How an action that is put together from others ends, and in which state,
said in terms of the outcomes of its parts.  Two properties are passed on
from the parts to the whole: an action keeps a property of the state if the
property holds afterwards in whatever way the action ended, and it answers
if it never ends with a panic.
-/

namespace InterfaceManager
namespace Action

@[simp] theorem outcome_pure (a : α) (s : σ) :
    outcome (pure a : Action σ α) s = (.ok a, s) := rfl

theorem outcome_bind (act : Action σ α) (next : α → Action σ β) (s : σ) :
    outcome (act >>= next) s =
      match outcome act s with
      | (.ok a, t) => outcome (next a) t
      | (.error f, t) => (.error f, t) := by
  simp only [outcome, bind, EStateM.bind]
  cases act s <;> rfl

/-- What comes to a value has come to one in each of its parts. -/
theorem outcome_bind_ok {act : Action σ α} {next : α → Action σ β} {s t : σ}
    {b : β} (done : outcome (act >>= next) s = (.ok b, t)) :
    ∃ a u, outcome act s = (.ok a, u) ∧ outcome (next a) u = (.ok b, t) := by
  rw [outcome_bind] at done
  rcases first : outcome act s with ⟨f | a, u⟩ <;> rw [first] at done
  · cases done
  · exact ⟨a, u, rfl, done⟩

theorem outcome_map (g : α → β) (act : Action σ α) (s : σ) :
    outcome (g <$> act) s = ((outcome act s).1.map g, (outcome act s).2) := by
  simp only [outcome, Functor.map, EStateM.map]
  cases act s <;> rfl

@[simp] theorem outcome_get (s : σ) :
    outcome (get : Action σ σ) s = (.ok s, s) := rfl

@[simp] theorem outcome_modify (g : σ → σ) (s : σ) :
    outcome (modify g : Action σ PUnit) s = (.ok (), g s) := rfl

@[simp] theorem outcome_modifyGet (g : σ → α × σ) (s : σ) :
    outcome (modifyGet g : Action σ α) s = (.ok (g s).1, (g s).2) := rfl

@[simp] theorem outcome_fail (e : Error) (s : σ) :
    outcome (fail e : Action σ α) s = (.error (.error e), s) := rfl

@[simp] theorem outcome_panic (message : String) (s : σ) :
    outcome (Action.panic message : Action σ α) s =
      (.error (.panic message), s) := rfl

@[simp] theorem outcome_attempt (act : Action σ α) (s : σ) :
    outcome (attempt act) s = (.ok (outcome act s).1, (outcome act s).2) := by
  simp only [outcome, attempt]
  cases act s <;> rfl

@[simp] theorem outcome_andFinally
    (act : Action σ α) (last : σ → σ) (s : σ) :
    outcome (andFinally act last) s =
      ((outcome act s).1, last (outcome act s).2) := by
  simp only [outcome, andFinally]
  cases act s <;> rfl

@[simp] theorem outcome_focus
    (view : σ → τ) (set : τ → σ → σ) (act : Action τ α) (s : σ) :
    outcome (focus view set act) s =
      ((outcome act (view s)).1, set (outcome act (view s)).2 s) := by
  simp only [outcome, focus]
  cases act (view s) <;> rfl

theorem outcome_mapError (g : Error → Error) (act : Action σ α) (s : σ) :
    outcome (mapError g act) s =
      match outcome act s with
      | (.ok a, t) => (.ok a, t)
      | (.error (.error e), t) => (.error (.error (g e)), t)
      | (.error (.panic message), t) => (.error (.panic message), t) := by
  simp only [outcome, mapError]
  rcases act s with ⟨a, t⟩ | ⟨_ | _, t⟩ <;> rfl

theorem outcome_tried (act : Action σ α) (s : σ) :
    outcome (tried act) s =
      match outcome act s with
      | (.ok a, t) => (.ok (.ok a), t)
      | (.error (.error e), t) => (.ok (.error e), t)
      | (.error (.panic message), t) => (.error (.panic message), t) := by
  simp only [outcome, tried]
  rcases act s with ⟨a, t⟩ | ⟨_ | _, t⟩ <;> rfl

/-- The action never ends with a panic. -/
def Answers (act : Action σ α) : Prop :=
  ∀ s message, (outcome act s).1 ≠ .error (.panic message)

/-- An action that answers ends with a value or with an error. -/
theorem Answers.cases {act : Action σ α} (answers : act.Answers) (s : σ) :
    (∃ a t, outcome act s = (.ok a, t)) ∨
      ∃ e t, outcome act s = (.error (.error e), t) := by
  have hnot := answers s
  rcases houtcome : outcome act s with ⟨(e | message) | a, t⟩
  · exact Or.inr ⟨e, t, rfl⟩
  · rw [houtcome] at hnot
    exact absurd rfl (hnot message)
  · exact Or.inl ⟨a, t, rfl⟩

theorem Answers.pure (a : α) : (pure a : Action σ α).Answers := by
  intro s message h
  cases h

theorem Answers.fail (e : Error) : (fail e : Action σ α).Answers := by
  intro s message h
  cases h

theorem Answers.bind {act : Action σ α} {next : α → Action σ β}
    (hact : act.Answers) (hnext : ∀ a, (next a).Answers) :
    (act >>= next).Answers := by
  intro s message
  rw [outcome_bind]
  rcases hact.cases s with ⟨a, t, h⟩ | ⟨e, t, h⟩
  · rw [h]
    exact hnext a t message
  · rw [h]
    simp

theorem Answers.get : (get : Action σ σ).Answers := by
  intro s message h
  cases h

theorem Answers.modify (g : σ → σ) :
    (modify g : Action σ PUnit).Answers := by
  intro s message h
  cases h

theorem Answers.focus (view : σ → τ) (set : τ → σ → σ) {act : Action τ α}
    (hact : act.Answers) : (focus view set act).Answers := by
  intro s message
  rw [outcome_focus]
  exact hact (view s) message

/-! ## Keeping a property of the state -/

/-- The property holds after the action, however that ends, if it held
before. -/
def Keeps (I : σ → Prop) (act : Action σ α) : Prop :=
  ∀ s, I s → I (outcome act s).2

theorem Keeps.pure (I : σ → Prop) (a : α) :
    (pure a : Action σ α).Keeps I := fun _ h => h

theorem Keeps.bind {I : σ → Prop} {act : Action σ α} {next : α → Action σ β}
    (hact : act.Keeps I) (hnext : ∀ a, (next a).Keeps I) :
    (act >>= next).Keeps I := by
  intro s hs
  have ht := hact s hs
  rw [outcome_bind]
  rcases houtcome : outcome act s with ⟨f | a, t⟩
  · rw [houtcome] at ht
    exact ht
  · rw [houtcome] at ht
    exact hnext a t ht

theorem Keeps.get {I : σ → Prop} : (get : Action σ σ).Keeps I :=
  fun _ h => h

theorem Keeps.modify {I : σ → Prop} {g : σ → σ} (hg : ∀ s, I s → I (g s)) :
    (modify g : Action σ PUnit).Keeps I := hg

theorem Keeps.fail (I : σ → Prop) (e : Error) :
    (fail e : Action σ α).Keeps I := fun _ h => h

theorem Keeps.panic (I : σ → Prop) (message : String) :
    (Action.panic message : Action σ α).Keeps I := fun _ h => h

theorem Keeps.attempt {I : σ → Prop} {act : Action σ α}
    (hact : act.Keeps I) : (attempt act).Keeps I := by
  intro s hs
  rw [outcome_attempt]
  exact hact s hs

theorem Keeps.tried {I : σ → Prop} {act : Action σ α}
    (hact : act.Keeps I) : (Action.tried act).Keeps I := by
  intro s hs
  have ht := hact s hs
  rw [outcome_tried]
  rcases houtcome : outcome act s with ⟨(e | message) | a, t⟩ <;>
    rw [houtcome] at ht <;> exact ht

theorem Keeps.forM {I : σ → Prop} {body : β → Action σ PUnit} {bs : List β}
    (hbody : ∀ b ∈ bs, (body b).Keeps I) : (bs.forM body).Keeps I := by
  induction bs with
  | nil => exact .pure I _
  | cons b bs ih =>
    refine (hbody b List.mem_cons_self).bind fun _ => ?_
    exact ih fun b hb => hbody b (List.mem_cons_of_mem _ hb)

/-- A property of a part is kept by an action of that part. -/
theorem Keeps.focus {I : τ → Prop} {view : σ → τ} {set : τ → σ → σ}
    {act : Action τ α} (hact : act.Keeps I)
    (hset : ∀ t s, view (set t s) = t) :
    (Action.focus view set act).Keeps fun s => I (view s) := by
  intro s hs
  rw [outcome_focus, hset]
  exact hact (view s) hs

end Action

namespace Session

def noting (s : Session η) (n : Notice) : Session η :=
  { s with journal := s.journal.take n }

@[simp] theorem host_noting (s : Session η) (n : Notice) :
    (s.noting n).host = s.host := rfl

@[simp] theorem outcome_note (n : Notice) (s : Session η) :
    Action.outcome (note n) s = (.ok (), s.noting n) := rfl

end Session
end InterfaceManager

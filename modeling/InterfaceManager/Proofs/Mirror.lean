import InterfaceManager.Proofs.Outcome
import InterfaceManager.Proofs.Recording

/-!
# Hosts seen through a view

A view of a host may forget a part of it.  If the calls on a host look
through the view like calls on another host, then so does everything that is
made of these calls.  This is passed on here from the parts of an action to
the whole, up to the actions of a pool.  A record of calls is such a part: to
forget it gives the plain host back.
-/

namespace InterfaceManager
namespace Action

/-- Seen through the view the action is its image: it ends in the same way
and leaves what the image leaves. -/
def Mirrors (view : σ → τ) (act : Action σ α) (image : Action τ α) : Prop :=
  ∀ s, outcome image (view s) = ((outcome act s).1, view (outcome act s).2)

section Rules

variable {view : σ → τ}

theorem Mirrors.pure (view : σ → τ) (a : α) :
    Mirrors view (pure a) (pure a) := fun _ => rfl

theorem Mirrors.fail (view : σ → τ) (e : Error) :
    Mirrors view (fail e : Action σ α) (fail e) := fun _ => rfl

theorem Mirrors.panic (view : σ → τ) (message : String) :
    Mirrors view (Action.panic message : Action σ α)
      (Action.panic message) := fun _ => rfl

theorem Mirrors.bind {act : Action σ α} {image : Action τ α}
    {next : α → Action σ β} {next' : α → Action τ β}
    (hact : Mirrors view act image)
    (hnext : ∀ a, Mirrors view (next a) (next' a)) :
    Mirrors view (act >>= next) (image >>= next') := by
  intro s
  have first := hact s
  rw [outcome_bind, outcome_bind, first]
  rcases outcome act s with ⟨f | a, t⟩
  · rfl
  · exact hnext a t

/-- What is read is read through the view. -/
theorem Mirrors.get_bind {next : σ → Action σ α} {next' : τ → Action τ α}
    (hnext : ∀ s, Mirrors view (next s) (next' (view s))) :
    Mirrors view (get >>= next) (get >>= next') :=
  fun s => hnext s s

theorem Mirrors.modify {g : σ → σ} {g' : τ → τ}
    (same : ∀ s, g' (view s) = view (g s)) :
    Mirrors view (modify g : Action σ PUnit) (modify g') := by
  intro s
  rw [outcome_modify, outcome_modify, same]

theorem Mirrors.modifyGet {g : σ → α × σ} {g' : τ → α × τ}
    (same : ∀ s, g' (view s) = ((g s).1, view (g s).2)) :
    Mirrors view (modifyGet g : Action σ α) (modifyGet g') := by
  intro s
  rw [outcome_modifyGet, outcome_modifyGet, same]

variable {act : Action σ α} {image : Action τ α}

theorem Mirrors.map (hact : Mirrors view act image) (g : α → β) :
    Mirrors view (g <$> act) (g <$> image) := by
  intro s
  rw [outcome_map, outcome_map, hact s]

theorem Mirrors.attempt (hact : Mirrors view act image) :
    Mirrors view (attempt act) (attempt image) := by
  intro s
  rw [outcome_attempt, outcome_attempt, hact s]

theorem Mirrors.tried (hact : Mirrors view act image) :
    Mirrors view (tried act) (tried image) := by
  intro s
  rw [outcome_tried, outcome_tried, hact s]
  rcases outcome act s with ⟨(e | message) | a, t⟩ <;> rfl

theorem Mirrors.mapError (hact : Mirrors view act image)
    (g : Error → Error) : Mirrors view (mapError g act) (mapError g image) := by
  intro s
  rw [outcome_mapError, outcome_mapError, hact s]
  rcases outcome act s with ⟨(e | message) | a, t⟩ <;> rfl

theorem Mirrors.andFinally (hact : Mirrors view act image) {last : σ → σ}
    {last' : τ → τ} (same : ∀ s, last' (view s) = view (last s)) :
    Mirrors view (andFinally act last) (andFinally image last') := by
  intro s
  rw [outcome_andFinally, outcome_andFinally, hact s, same]

/-- An action of a part is mirrored by one of the part that is viewed. -/
theorem Mirrors.focus {whole : ρ → υ} (hact : Mirrors view act image)
    {get : ρ → σ} {set : σ → ρ → ρ} {get' : υ → τ} {set' : τ → υ → υ}
    (gets : ∀ r, get' (whole r) = view (get r))
    (sets : ∀ s r, set' (view s) (whole r) = whole (set s r)) :
    Mirrors whole (focus get set act) (focus get' set' image) := by
  intro r
  rw [outcome_focus, outcome_focus, gets, hact (get r), sets]

theorem Mirrors.forM {body : β → Action σ PUnit} {body' : β → Action τ PUnit}
    (hbody : ∀ b, Mirrors view (body b) (body' b)) (bs : List β) :
    Mirrors view (bs.forM body) (bs.forM body') := by
  induction bs with
  | nil => exact .pure view _
  | cons b bs ih => exact (hbody b).bind fun _ => ih

end Rules
end Action

open InterfaceManager.Action

/-! ## Sessions and scopes -/

def Session.onto (view : η → θ) (s : Session η) : Session θ :=
  ⟨view s.host, s.journal⟩

theorem Session.note_mirrors (view : η → θ) (n : Notice) :
    Mirrors (onto view) (note n) (note n) := fun _ => rfl

/-- The calls of a provider look like those of another one. -/
structure NamespaceProvider.Mirrors (view : η → θ)
    (provider : NamespaceProvider η) (image : NamespaceProvider θ) :
    Prop where
  openHandle : ∀ name, Action.Mirrors (Session.onto view)
    (provider.openHandle name) (image.openHandle name)
  enter : ∀ handle, Action.Mirrors (Session.onto view)
    (provider.enter handle) (image.enter handle)
  exit : ∀ state, Action.Mirrors (Session.onto view)
    (provider.exit state) (image.exit state)

section Providers

variable {view : η → θ} {provider : NamespaceProvider η}
  {image : NamespaceProvider θ}

theorem Scope.enter_mirrors (mirrors : provider.Mirrors view image)
    (context : Context) (handle : Option Handle) (operation : String) :
    Action.Mirrors (Session.onto view)
      (enter provider context handle operation)
      (enter image context handle operation) := by
  unfold enter
  split
  · exact .pure _ _
  · cases handle with
    | none =>
      exact (Session.note_mirrors view _).bind fun _ => .fail _ _
    | some handle =>
      refine (Session.note_mirrors view _).bind fun _ => ?_
      refine (mirrors.enter handle).attempt.bind fun answer => ?_
      rcases answer with (e | message) | state
      · exact (Session.note_mirrors view _).bind fun _ => .fail _ _
      · exact .panic _ _
      · exact .pure _ _

theorem Scope.exit_mirrors (mirrors : provider.Mirrors view image)
    (scope : Scope) :
    Action.Mirrors (Session.onto view) (scope.exit provider)
      (scope.exit image) := by
  obtain ⟨operation, saved⟩ := scope
  cases saved with
  | none => exact .pure _ _
  | some state =>
    refine (mirrors.exit state).attempt.bind fun answer => ?_
    rcases answer with (e | message) | ⟨⟩
    · exact (Session.note_mirrors view _).bind fun _ => .fail _ _
    · exact .panic _ _
    · exact Session.note_mirrors view _

theorem Scope.drop_mirrors (mirrors : provider.Mirrors view image)
    (scope : Scope) :
    Action.Mirrors (Session.onto view) (scope.drop provider)
      (scope.drop image) := by
  refine (Scope.exit_mirrors mirrors scope).attempt.bind fun answer => ?_
  split
  · exact .panic _ _
  · exact .pure _ _

theorem runInNamespace_mirrors (mirrors : provider.Mirrors view image)
    (context : Context) (handle : Option Handle) (operation : String)
    {act : Action (Session η) α} {act' : Action (Session θ) α}
    (hact : Action.Mirrors (Session.onto view) act act') :
    Action.Mirrors (Session.onto view)
      (runInNamespace provider context handle operation act)
      (runInNamespace image context handle operation act') := by
  refine (Scope.enter_mirrors mirrors context handle operation).bind
    fun scope => ?_
  have leaves := Scope.exit_mirrors mirrors scope
  refine hact.attempt.bind fun answer => ?_
  rcases answer with (e | message) | value
  · refine leaves.attempt.bind fun back => ?_
    rcases back with (restore | message) | ⟨⟩
    · exact .fail _ _
    · exact .panic _ _
    · exact .fail _ _
  · exact (Scope.drop_mirrors mirrors scope).bind fun _ => .panic _ _
  · exact leaves.bind fun _ => .pure _ _

/-! ## Pools -/

def Pooled.onto (view : η → θ) (p : Pooled η) : Pooled θ :=
  ⟨p.session.onto view, p.contexts, p.pool⟩

theorem Pooled.inSession_mirrors {act : Action (Session η) α}
    {act' : Action (Session θ) α}
    (hact : Action.Mirrors (Session.onto view) act act') :
    Action.Mirrors (onto view) (inSession act) (inSession act') :=
  hact.focus (fun _ => rfl) fun _ _ => rfl

theorem Pooled.note_mirrors (view : η → θ) (n : Notice) :
    Action.Mirrors (onto view) (note n) (note n) :=
  inSession_mirrors (Session.note_mirrors view n)

theorem Pooled.acquire_mirrors (mirrors : provider.Mirrors view image)
    (name : String) :
    Action.Mirrors (onto view) (acquire provider name)
      (acquire image name) := by
  refine .get_bind fun p => ?_
  dsimp only [onto]
  split
  · refine Mirrors.bind (.modify fun _ => rfl) fun _ => ?_
    exact (note_mirrors view _).bind fun _ => .pure _ _
  · have rest : ∀ handle, Action.Mirrors (onto view)
        (do
          let context ← addContext name handle
          note (.contextCreated name)
          pure context)
        (do
          let context ← addContext name handle
          note (.contextCreated name)
          pure context) := by
      intro handle
      refine Mirrors.bind (.modifyGet fun _ => rfl) fun context => ?_
      exact (note_mirrors view _).bind fun _ => .pure _ _
    split
    · exact rest none
    · refine (note_mirrors view _).bind fun _ => ?_
      have opens := inSession_mirrors (mirrors.openHandle name)
      exact (opens.map some).bind rest

theorem Pooled.close_mirrors (view : η → θ) (context : Context) :
    Action.Mirrors (onto view) (close context) (close context) := by
  refine .get_bind fun p => ?_
  dsimp only [onto]
  split
  · refine Mirrors.bind (.modify fun _ => rfl) fun _ => ?_
    exact note_mirrors view _
  · exact .pure _ _

theorem Pooled.release_mirrors (view : η → θ) (context : Context) :
    Action.Mirrors (onto view) (release context) (release context) := by
  refine .get_bind fun p => ?_
  dsimp only [onto]
  split
  · exact .panic _ _
  · split
    · exact .panic _ _
    · split
      · exact .panic _ _
      · refine Mirrors.bind (.modify fun _ => rfl) fun _ => ?_
        refine (note_mirrors view _).bind fun _ => ?_
        split
        · refine (close_mirrors view _).bind fun _ => ?_
          refine Mirrors.bind (.modify fun _ => rfl) fun _ => ?_
          exact note_mirrors view _
        · exact .pure _ _

end Providers

theorem Action.recorded_mirrors (event : Outcome α → κ)
    (act : Action (Session η) α) :
    Mirrors (Session.onto Recorded.host) (act.recorded event) act := by
  intro s
  rw [outcome_recorded_eq]
  rfl

theorem NamespaceProvider.recorded_mirrors (event : ProviderEvent → κ)
    (provider : NamespaceProvider η) :
    (provider.recorded event).Mirrors Recorded.host provider where
  openHandle name := Action.recorded_mirrors
    (fun answer => event (.opened name answer)) (provider.openHandle name)
  enter handle := Action.recorded_mirrors
    (fun answer => event (.entered handle answer)) (provider.enter handle)
  exit state := Action.recorded_mirrors
    (fun answer => event (.left state answer)) (provider.exit state)

end InterfaceManager

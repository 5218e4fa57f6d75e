import InterfaceManager.Proofs.Device.Keeping
import InterfaceManager.Proofs.InMemory.Names
import InterfaceManager.Proofs.Namespace.Pools

/-!
# What lasts in memory

Some properties of a host in memory and of its manager hold for good, whatever
devices, their callbacks and the world outside do.  No two interfaces get the
same key.  Every name in the pool is the default one or can be opened, and an
open handle has the name of its context.
-/

namespace InterfaceManager

open InterfaceManager.Action

namespace MemoryLinks

/-- No two interfaces have one key. -/
def Keyed (m : MemoryLinks) : Prop := (m.table.map Prod.fst).Nodup

instance (m : MemoryLinks) : Decidable m.Keyed :=
  inferInstanceAs (Decidable (List.Nodup _))

variable {m : MemoryLinks}

theorem keys_update (m : MemoryLinks) (key : LinkKey)
    (f : MemoryLink → MemoryLink) :
    (m.update key f).table.map Prod.fst = m.table.map Prod.fst := by
  rw [update, List.map_map]
  apply List.map_congr_left
  intro entry _
  by_cases same : entry.1 = key <;> simp [same]

theorem Keyed.update (keyed : m.Keyed) (key : LinkKey)
    (f : MemoryLink → MemoryLink) : (m.update key f).Keyed := by
  rw [Keyed, keys_update]
  exact keyed

theorem Keyed.remove (keyed : m.Keyed) (key : LinkKey) :
    (m.remove key).Keyed :=
  keyed.sublist (List.filter_sublist.map Prod.fst)

theorem Keyed.add (keyed : m.Keyed) (key : LinkKey) (name : String) :
    (m.add key name).Keyed := by
  unfold MemoryLinks.add
  split
  · exact keyed.update key _
  · next missing =>
    have absent : key ∉ m.table.map Prod.fst := by
      intro present
      obtain ⟨entry, member, same⟩ := List.mem_map.mp present
      apply missing
      rw [link?, Option.isSome_map, List.find?_isSome]
      exact ⟨entry, member, by simpa using same⟩
    rw [Keyed, List.map_append, List.map_singleton]
    refine List.nodup_append.mpr ⟨keyed, List.nodup_singleton _, ?_⟩
    rintro other present _ single rfl
    rw [List.mem_singleton] at single
    subst single
    exact absent present

/-- Interfaces under one key are one interface. -/
theorem Keyed.eq_of_key_eq (keyed : m.Keyed) {a b : LinkKey × MemoryLink}
    (ha : a ∈ m.table) (hb : b ∈ m.table) (same : a.1 = b.1) : a = b :=
  List.inj_on_of_nodup_map keyed ha hb same

theorem resolveName_keeps {J : MemoryLinks → Prop}
    (records : ∀ m netns request, J m → J (m.record netns request))
    (netns : String) (ifindex : IfIndex) :
    (resolveName netns ifindex).Keeps fun s => J s.host := by
  refine Keeps.bind (.modify fun s => records s.host _ _) fun _ => ?_
  refine Keeps.get.bind fun s => ?_
  split
  · exact .pure _ _
  · exact .fail _ _

theorem linkState_keeps {J : MemoryLinks → Prop}
    (records : ∀ m netns request, J m → J (m.record netns request))
    (netns devName : String) :
    (linkState netns devName).Keeps fun s => J s.host := by
  refine Keeps.bind (.modify fun s => records s.host _ _) fun _ => ?_
  refine Keeps.get.bind fun s => ?_
  split
  · exact .pure _ _
  · exact .fail _ _

theorem change_keeps_keyed (operation netns devName : String)
    (request : LinkRequest) (f : MemoryLink → MemoryLink) :
    (change operation netns devName request f).Keeps
      fun s => s.host.Keyed := by
  refine Keeps.bind (.modify fun _ keyed => keyed) fun _ => ?_
  refine Keeps.get.bind fun s => ?_
  split
  · refine Keeps.get.bind fun s => ?_
    split
    · next key _ _ =>
      exact Keeps.bind (.modify fun _ keyed => keyed.update key f)
        fun _ _ keyed => keyed
    · exact .fail _ _
  · exact .fail _ _

end MemoryLinks

namespace MemoryHost

/-- The namespace in which calls made for `netns` are recorded. -/
def callsFor (h : MemoryHost) (netns : String) : String :=
  match h.probe with
  | .current => h.traffic.place netns
  | .fixed other => other

theorem callNamespace_eq_callsFor (h : MemoryHost) :
    h.callNamespace = h.callsFor "" := by
  rcases probe : h.probe with _ | other
  · rw [callNamespace_eq probe, callsFor, probe]
  · simp only [callNamespace, callsFor, probe]

/-- Inside a namespace, calls are made for it. -/
theorem callNamespace_of_entered {h k : MemoryHost} {name : String}
    (named : name ≠ "")
    (traffic : k.traffic =
      { h.traffic with stack := name :: h.traffic.stack }) :
    k.callNamespace = h.callsFor name := by
  have probe : k.probe = h.probe := congrArg Traffic.probe traffic
  have stack : k.namespaces.stack = name :: h.namespaces.stack :=
    congrArg Traffic.stack traffic
  rcases where_ : h.probe with _ | other
  · simp [callNamespace, callsFor, probe, where_, MemoryNamespaces.current,
      stack, Traffic.place, named]
  · simp [callNamespace, callsFor, probe, where_]

/-! ## What calls keep -/

theorem onLinks_keeps {J : MemoryLinks → Prop}
    (act : String → Action (Session MemoryLinks) α)
    (keeps : ∀ netns, (act netns).Keeps fun s => J s.host) :
    (onLinks act).Keeps fun s => J s.host.links := by
  refine Keeps.get.bind fun s => ?_
  intro t ht
  rw [outcome_focus]
  exact keeps s.host.callNamespace ⟨t.host.links, t.journal⟩ ht

/-- Calls on interfaces leave the namespaces alone. -/
theorem onLinks_keeps_namespaces (J : MemoryNamespaces → Prop)
    (act : String → Action (Session MemoryLinks) α) :
    (onLinks act).Keeps fun s => J s.host.namespaces := by
  refine Keeps.get.bind fun s => ?_
  intro t ht
  rw [outcome_focus]
  exact ht

theorem unlessPending_keeps {J : MemoryNamespaces → Prop}
    (call : ProviderCall) {act : Action (Session MemoryNamespaces) α}
    (keeps : act.Keeps fun s => J s.host) :
    (unlessPending call act).Keeps fun s => J s.host.namespaces := by
  refine Keeps.get.bind fun s => ?_
  split
  · exact Keeps.bind (.modify fun _ hs => hs) fun _ => .fail _ _
  · intro t ht
    rw [onNamespaces, outcome_focus]
    exact keeps ⟨t.host.namespaces, t.journal⟩ ht

theorem backend_keeps_keyed : backend.Every fun act =>
    act.Keeps fun s => s.host.links.Keyed := by
  have switches : ∀ {α : Type} (call : ProviderCall)
      (act : Action (Session MemoryNamespaces) α),
      (unlessPending call act).Keeps fun s => s.host.links.Keyed := by
    intro α call act s keyed
    have same := unlessPending_keeps_links s.host.links call act s rfl
    exact same.symm ▸ keyed
  constructor
  · intro name
    exact switches _ _
  · intro handle
    exact switches _ _
  · intro state
    exact switches _ _
  · intro ifindex
    apply onLinks_keeps fun netns => MemoryLinks.resolveName netns ifindex
    intro netns
    exact MemoryLinks.resolveName_keeps (fun _ _ _ keyed => keyed) netns _
  · intro devName
    apply onLinks_keeps fun netns => MemoryLinks.linkState netns devName
    intro netns
    exact MemoryLinks.linkState_keeps (fun _ _ _ keyed => keyed) netns _
  · intro devName up
    apply onLinks_keeps fun netns =>
      (MemoryLinks.control netns).setUp devName up
    intro netns
    exact MemoryLinks.change_keeps_keyed "set_up" netns devName _ _
  · intro devName address length
    apply onLinks_keeps fun netns =>
      (MemoryLinks.control netns).addAddress devName address length
    intro netns
    exact MemoryLinks.change_keeps_keyed "add_address" netns devName _ _
  · intro devName destination length gateway
    apply onLinks_keeps fun netns =>
      (MemoryLinks.control netns).addRoute devName destination length gateway
    intro netns
    exact MemoryLinks.change_keeps_keyed "add_route" netns devName _ _

/-- What calls of the provider keep of the namespaces, all calls keep. -/
theorem backend_keeps_namespaces {J : MemoryNamespaces → Prop}
    (opens : ∀ name,
      (MemoryNamespaces.openHandle name).Keeps fun s => J s.host)
    (enters : ∀ handle,
      (MemoryNamespaces.enter handle).Keeps fun s => J s.host)
    (exits : ∀ state,
      (MemoryNamespaces.exit state).Keeps fun s => J s.host) :
    backend.Every fun act => act.Keeps fun s => J s.host.namespaces where
  openHandle name := unlessPending_keeps _ (opens name)
  enter handle := unlessPending_keeps _ (enters handle)
  exit state := unlessPending_keeps _ (exits state)
  resolveName ifindex := onLinks_keeps_namespaces J fun netns =>
    (MemoryLinks.control netns).resolveName ifindex
  linkState devName := onLinks_keeps_namespaces J fun netns =>
    (MemoryLinks.control netns).linkState devName
  setUp devName up := onLinks_keeps_namespaces J fun netns =>
    (MemoryLinks.control netns).setUp devName up
  addAddress devName address length :=
    onLinks_keeps_namespaces J fun netns =>
      (MemoryLinks.control netns).addAddress devName address length
  addRoute devName destination length gateway :=
    onLinks_keeps_namespaces J fun netns =>
      (MemoryLinks.control netns).addRoute devName destination length gateway

/-- The interfaces never get two with one key. -/
theorem lasting_keyed : Manager.Lasting backend fun m =>
    m.session.host.links.Keyed := by
  refine .of_host (J := fun h : MemoryHost => h.links.Keyed)
    backend_keeps_keyed ?_
  intro h change keyed
  cases change with
  | renameLink key name => exact keyed.update key _
  | setLinkState key state => exact keyed.update key _
  | removeLink key => exact keyed.remove key
  | addLink key name => exact keyed.add key name
  | _ => exact keyed

end MemoryHost

/-! ## Names in the pool -/

namespace MemoryNamespaces

variable (known : List String)

theorem openHandle_keeps_known (name : String) :
    (openHandle name).Keeps fun s => s.host.known = known := by
  refine Keeps.get.bind fun s => ?_
  split
  · refine Keeps.get.bind fun s => ?_
    refine Keeps.bind (.modify fun _ same => same) fun _ => ?_
    exact Keeps.bind (.modify fun _ same => same) fun _ => .pure _ _
  · exact Keeps.bind (.modify fun _ same => same) fun _ => .fail _ _

theorem enter_keeps_known (handle : Handle) :
    (enter handle).Keeps fun s => s.host.known = known := by
  refine Keeps.bind (.modify fun _ same => same) fun _ => ?_
  refine Keeps.get.bind fun s => ?_
  split
  · exact .fail _ _
  · refine Keeps.bind (.modify fun _ same => same) fun _ => ?_
    refine Keeps.get.bind fun s => ?_
    exact Keeps.bind (.modify fun _ same => same) fun _ => .pure _ _

theorem exit_keeps_known (state : SwitchState) :
    (exit state).Keeps fun s => s.host.known = known := by
  refine Keeps.bind (.modify fun _ same => same) fun _ => ?_
  refine Keeps.get.bind fun s => ?_
  split
  · exact .fail _ _
  · refine Keeps.bind (.modify fun _ same => same) fun _ => ?_
    exact Keeps.get.bind fun s => .modify fun _ same => same

end MemoryNamespaces

namespace MemoryHost

/-- Only names that are known can be opened. -/
theorem mem_known_of_openHandle {name : String} {handle : Handle}
    {s t : Session MemoryHost}
    (opening : outcome (backend.provider.openHandle name) s =
      (.ok handle, t)) :
    handle.name = name ∧ name ∈ s.host.namespaces.known := by
  change outcome (unlessPending .opening _) s = _ at opening
  rw [unlessPending, outcome_bind, outcome_get] at opening
  rcases pending : s.host.pending.get .opening with _ | e
  · simp only [pending, onNamespaces, outcome_focus] at opening
    by_cases known : name ∈ s.host.namespaces.known
    · refine ⟨?_, known⟩
      simp only [MemoryNamespaces.openHandle, outcome_bind, outcome_get,
        List.contains_iff_mem, known, if_true, outcome_modify,
        Session.outcome_note, outcome_pure, Prod.mk.injEq] at opening
      exact congrArg Handle.name (Except.ok.inj opening.1).symm
    · simp [MemoryNamespaces.openHandle, outcome_bind, known] at opening
  · simp [pending, outcome_bind] at opening

theorem backend_keeps_known (known : List String) :
    backend.Every fun act =>
      act.Keeps fun s => s.host.namespaces.known = known :=
  backend_keeps_namespaces (J := fun n => n.known = known)
    (MemoryNamespaces.openHandle_keeps_known known)
    (MemoryNamespaces.enter_keeps_known known)
    (MemoryNamespaces.exit_keeps_known known)

end MemoryHost

/-! The names in a pool, and what giving contexts back does to them. -/

namespace Pooled

theorem acquire_sound (provider : NamespaceProvider η) (name : String) :
    (acquire provider name).Keeps fun p => p.pool.Sound p.contexts := by
  intro p sound
  rcases acquire_cases provider name p
    with ⟨context, q, acquiring, acquired⟩ | ⟨f, t, -, -, -, acquiring⟩
  · rw [acquiring]
    exact acquired.sound sound
  · rw [acquiring]
    exact sound

theorem release_sound (context : Context) :
    (release context : Action (Pooled η) Unit).Keeps
      fun p => p.pool.Sound p.contexts := by
  intro p sound
  rcases tracked : p.pool.get? context.name with _ | held
  · rw [outcome_release_untracked tracked]
    exact sound
  · by_cases same : held.id = context.id
    · obtain ⟨q, releasing, released⟩ := release_pooled sound tracked same
      rw [releasing]
      exact released.sound sound
    · rw [outcome_release_stale tracked same]
      exact sound

def AllNamed (P : String → Prop) (p : Pooled η) : Prop :=
  ∀ name, p.pool.lease? name ≠ none → P name

theorem release_keeps_allNamed (P : String → Prop) (context : Context) :
    (release context : Action (Pooled η) Unit).Keeps (AllNamed P) := by
  apply release_keeps
  · intro n p all
    rw [outcome_note]
    exact all
  · intro p name refcount all other tracked
    apply all other
    rw [Pool.lease?_setRefcount] at tracked
    split at tracked
    · simpa using tracked
    · exact tracked
  · intro p held all
    exact all
  · intro p name all other tracked
    apply all other
    rw [Pool.lease?_erase] at tracked
    split at tracked
    · exact absurd rfl tracked
    · exact tracked

/-- An acquisition puts a name into the pool only if it can be opened. -/
theorem acquire_keeps_allNamed {provider : NamespaceProvider η}
    {P : String → Prop} (default : P "") {p : Pooled η}
    (opens : ∀ name handle s t, s.host = p.session.host →
      outcome (provider.openHandle name) s = (.ok handle, t) → P name)
    (all : p.AllNamed P) (name : String) :
    (outcome (acquire provider name) p).2.AllNamed P := by
  have inserted : p.pool.lease? name = none → P name →
      ∀ lease other, (p.pool.insert name lease).lease? other ≠ none →
        P other := by
    intro missing here lease other tracked
    rw [Pool.lease?_insert missing] at tracked
    split at tracked
    · next same => exact same ▸ here
    · exact all other tracked
  rcases Option.eq_none_or_eq_some (p.pool.lease? name)
    with missing | ⟨lease, found⟩
  · by_cases unnamed : name = ""
    · subst unnamed
      rw [outcome_acquire_default provider missing]
      exact inserted missing default _
    · rcases opening : outcome (provider.openHandle name)
        (p.session.noting (.contextPrepared name)) with ⟨f | handle, t⟩
      · rw [outcome_acquire_unopened provider missing unnamed opening]
        exact all
      · rw [outcome_acquire_opened provider missing unnamed opening]
        exact inserted missing (opens name handle
          (p.session.noting (.contextPrepared name)) t rfl opening) _
  · rw [outcome_acquire_shared provider found]
    intro other tracked
    apply all other
    rw [Pool.lease?_setRefcount] at tracked
    split at tracked
    · simpa using tracked
    · exact tracked

end Pooled

/-- Every name in the pool is the default one or can be opened, and every
open handle has the name of its context. -/
structure Manager.Tracks (m : Manager MemoryHost) : Prop where
  sound : m.pool.Sound m.contexts
  faithful : m.pool.Faithful m.contexts
  known : m.toPooled.AllNamed fun name =>
    name = "" ∨ name ∈ m.session.host.namespaces.known

namespace Manager.Tracks

variable {m : Manager MemoryHost}

theorem withSession (tracks : m.Tracks) {t : Session MemoryHost}
    (known : ∀ name ∈ m.session.host.namespaces.known,
      name ∈ t.host.namespaces.known) : (m.withSession t).Tracks where
  sound := tracks.sound
  faithful := tracks.faithful
  known name tracked :=
    (tracks.known name tracked).imp_right (known name)

theorem acquire_keeps (name : String) :
    (onPool (Pooled.acquire MemoryHost.backend.provider name)).Keeps
      Tracks := by
  intro m tracks
  have same := Pooled.acquire_keeps
    (I := fun s : Session MemoryHost =>
      s.host.namespaces.known = m.session.host.namespaces.known)
    (fun _ _ same => same) (MemoryHost.backend_keeps_known _).openHandle
    name m.toPooled rfl
  rw [outcome_onPool]
  constructor
  · exact Pooled.acquire_sound _ name m.toPooled tracks.sound
  · exact Pooled.acquire_faithful (p := m.toPooled)
      (fun opening => (MemoryHost.mem_known_of_openHandle opening).1)
      tracks.sound tracks.faithful name
  · intro other tracked
    rw [Manager.withPooled, same]
    refine Pooled.acquire_keeps_allNamed (p := m.toPooled) (.inl rfl) ?_
      tracks.known name other tracked
    intro opened handle s t host opening
    rw [← host]
    exact .inr (MemoryHost.mem_known_of_openHandle opening).2

/-- Keeping the books takes no name from the host. -/
theorem bookkept : Bookkept Tracks where
  journal same tracks := by
    apply tracks.withSession
    rw [same]
    exact fun _ known => known
  registry _ tracks := ⟨tracks.sound, tracks.faithful, tracks.known⟩
  releases context := by
    intro m tracks
    have same := (Bookkept.of_host fun h : MemoryHost =>
      h.namespaces.known = m.session.host.namespaces.known).releases
        context m rfl
    rw [release, outcome_onPool] at same ⊢
    constructor
    · exact Pooled.release_sound context m.toPooled tracks.sound
    · exact Pooled.release_faithful context m.toPooled tracks.faithful
    · intro other tracked
      rw [same]
      exact Pooled.release_keeps_allNamed _ context m.toPooled tracks.known
        other tracked

/-- The pool and the host stay in step. -/
theorem lasting : Lasting MemoryHost.backend Tracks where
  toBookkept := bookkept
  calls := by
    refine (Backend.Every.all MemoryHost.backend_keeps_known).mono ?_
    intro α act keeps m t tracks
    apply tracks.withSession
    rw [keeps t.host.namespaces.known t rfl]
    exact fun _ known => known
  acquires := acquire_keeps
  adjusts change tracks := by
    apply tracks.withSession
    cases change with
    | addNamespace name => exact fun _ known => List.mem_cons_of_mem name known
    | _ => exact fun _ known => known

theorem start (host : MemoryHost) : (Manager.start host).Tracks where
  sound := Pool.sound_empty _
  faithful := .empty _
  known _ tracked := absurd rfl tracked

end Manager.Tracks
end InterfaceManager

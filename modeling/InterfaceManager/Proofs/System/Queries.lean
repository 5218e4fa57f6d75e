import InterfaceManager.Proofs.System.Refusals
import InterfaceManager.Proofs.Text.Utf8
import InterfaceManager.System.Interfaces

/-!
# Queries inside a namespace

A query does not change the machine, and what it answers depends on the
kernel and on the namespace of the thread.  On a machine that lets its
thread back, a query that is run inside a namespace therefore answers what
the kernel knows there, and the machine is left as it was.
-/

namespace InterfaceManager

open InterfaceManager.Action

theorem LinkState.toNat_ofKernel_mtu (flags : Int16) (mtu : Int32) :
    ((ofKernel flags mtu).mtu.toNat : Int) = max 0 mtu.toInt := by
  have bound := mtu.toInt_lt
  have small : mtu.toInt.toNat < 2 ^ 32 := by omega
  simp only [ofKernel]
  rw [Nat.toUInt32, UInt32.toNat_ofNat', Nat.mod_eq_of_lt small]
  omega

namespace Kernel

variable {k : Kernel} {netns : String} {ifindex : IfIndex} {l : KernelLink}
  {field : NameField}

/-- The interface with an index in a namespace. -/
def linkAt? (k : Kernel) (netns : String) (ifindex : IfIndex) :
    Option KernelLink :=
  k.links.find? fun l => l.netns == netns && l.ifindex == ifindex

theorem linkAt?_isSome :
    (k.linkAt? netns ifindex).isSome ↔
      ∃ l ∈ k.links, l.netns = netns ∧ l.ifindex = ifindex := by
  simp [linkAt?]

theorem mem_of_linkAt? (found : k.linkAt? netns ifindex = some l) :
    l ∈ k.links ∧ l.netns = netns := by
  refine ⟨List.mem_of_find?_eq_some found, ?_⟩
  have matching := List.find?_some found
  simp only [Bool.and_eq_true, beq_iff_eq] at matching
  exact matching.1

/-- No system call fails by itself. -/
structure Willing (k : Kernel) : Prop where
  switches : k.switchErrors = []
  sockets : k.socketError = none
  flags : k.flagsError = none
  mtus : k.mtuError = none

/-- The name of an interface, as calls see it, is a text that is not empty,
and no other interface of the namespace has it. -/
structure Identifies (k : Kernel) (l : KernelLink) : Prop where
  text : ∃ text, Text.octets text = visibleName l.name
  nonempty : visibleName l.name ≠ []
  alone : ∀ other ∈ k.links, other.netns = l.netns →
    visibleName other.name = visibleName l.name → other = l

theorem visibleName_short (name : Text.Octets) :
    (visibleName name).length < nameSize := by
  have cut := (List.takeWhile_prefix (l := name.take (nameSize - 1))
    fun b => b != 0).length_le
  have short := List.length_take_le (nameSize - 1) name
  exact Nat.lt_of_le_of_lt (Nat.le_trans cut short) (by decide)

theorem zero_not_mem_visibleName (name : Text.Octets) :
    0 ∉ visibleName name := by
  intro zero
  have kept := List.all_eq_true.mp List.all_takeWhile 0 zero
  simp at kept

/-- A name of which a field holds the whole. -/
structure Fits (name : Text.Octets) : Prop where
  nonempty : name ≠ []
  short : name.length < nameSize
  whole : 0 ∉ name

instance (name : Text.Octets) : Decidable (Fits name) :=
  decidable_of_iff (name ≠ [] ∧ name.length < nameSize ∧ 0 ∉ name)
    ⟨fun ⟨nonempty, short, whole⟩ => ⟨nonempty, short, whole⟩,
      fun ⟨nonempty, short, whole⟩ => ⟨nonempty, short, whole⟩⟩

/-- What calls see of a name fits, unless it is empty. -/
theorem fits_visibleName {name : Text.Octets}
    (nonempty : visibleName name ≠ []) : Fits (visibleName name) :=
  ⟨nonempty, visibleName_short name, zero_not_mem_visibleName name⟩

theorem Fits.name_holding {name : Text.Octets} (fits : Fits name) :
    (NameField.holding name).name = name := by
  have short := fits.short
  have padded : (NameField.holding name).octets.toList =
      name ++ List.replicate (nameSize - name.length) 0 := by
    refine List.ext_getElem ?_ fun i before _ => ?_
    · simp
      omega
    · simp only [NameField.holding, Vector.toList_ofFn, List.getElem_ofFn,
        List.getElem_append]
      split
      · next inside => simp [inside]
      · next outside => simp [Nat.le_of_not_lt outside]
  have rest : nameSize - name.length = nameSize - name.length - 1 + 1 := by
    omega
  rw [NameField.name, padded, rest, List.replicate_succ,
    List.takeWhile_append_of_pos]
  · simp
  · intro b among
    simp only [bne_iff_ne]
    exact fun zero => fits.whole (zero ▸ among)

theorem named_ok (found : k.named netns field = .ok l) :
    l ∈ k.links ∧ l.netns = netns ∧ visibleName l.name = field.name := by
  rw [named] at found
  split at found
  · next found' =>
    cases found
    have matching := List.find?_some found'
    simp only [Bool.and_eq_true, beq_iff_eq] at matching
    exact ⟨List.mem_of_find?_eq_some found', matching⟩
  · cases found

/-- A field with a name that an interface has leads to such an interface. -/
theorem exists_named_ok (listed : l ∈ k.links) (placed : l.netns = netns)
    (held : visibleName l.name = field.name) :
    ∃ other, k.named netns field = .ok other := by
  rw [named]
  split
  · exact ⟨_, rfl⟩
  · next missing =>
    rw [List.find?_eq_none] at missing
    exact absurd (by simp [placed, held]) (missing l listed)

/-- A name leads back to the interface that it is the name of. -/
theorem Identifies.named_eq (identified : k.Identifies l)
    (listed : l ∈ k.links) (placed : l.netns = netns) :
    k.named netns (.holding (visibleName l.name)) = .ok l := by
  have held := (fits_visibleName identified.nonempty).name_holding
  obtain ⟨other, found⟩ := exists_named_ok listed placed held.symm
  obtain ⟨listed', placed', held'⟩ := named_ok found
  rw [found, identified.alone other listed' (placed'.trans placed.symm)
    (held'.trans held)]

/-- With this kernel and the thread in `netns` the action ends in `result`
and leaves the machine alone. -/
def Yields (k : Kernel) (netns : String) (act : Action (Session Machine) α)
    (result : Outcome α) : Prop :=
  ∀ s : Session Machine, s.host.kernel = k → s.host.current = netns →
    ∃ t, outcome act s = (result, t) ∧ t.host = s.host

theorem Yields.pure (k : Kernel) (netns : String) (a : α) :
    k.Yields netns (Pure.pure a) (.ok a) :=
  fun s _ _ => ⟨s, rfl, rfl⟩

theorem Yields.bind {act : Action (Session Machine) α} {a : α}
    {next : α → Action (Session Machine) β} {result : Outcome β}
    (first : k.Yields netns act (.ok a))
    (second : k.Yields netns (next a) result) :
    k.Yields netns (act >>= next) result := by
  intro s kernel current
  obtain ⟨t, acting, untouched⟩ := first s kernel current
  obtain ⟨u, going, unchanged⟩ := second t (untouched ▸ kernel)
    (untouched ▸ current)
  refine ⟨u, ?_, unchanged.trans untouched⟩
  rw [outcome_bind, acting]
  exact going

end Kernel

namespace Machine

variable {s : Session Machine} {devName : String} {l : KernelLink}

theorem queryName_fits (fits : Kernel.Fits (Text.octets devName)) :
    queryName devName = .ok (.holding (Text.octets devName)) := by
  have short := Nat.not_le_of_lt fits.short
  simp [queryName, fits.nonempty, short, fits.whole]

/-- A name that fits is asked about as it is. -/
theorem outcome_linkState_named (willing : s.host.kernel.Willing)
    (fits : Kernel.Fits (Text.octets devName))
    (found : s.host.kernel.named s.host.current
      (.holding (Text.octets devName)) = .ok l) :
    outcome (linkState devName) s = (.ok (.ofKernel l.flags l.mtu), s) := by
  simp [linkState, outcome_bind, Kernel.socket, willing.sockets,
    queryName_fits fits, Action.ofExcept, Kernel.flagsOf, willing.flags,
    Kernel.mtuOf, willing.mtus, found, Except.map, answer]

end Machine

namespace Kernel

variable {k : Kernel} {netns : String} {ifindex : IfIndex} {l : KernelLink}

theorem yields_unresolved (missing : k.linkAt? netns ifindex = none) :
    k.Yields netns (Machine.resolveName ifindex)
      (.error (.error (.noSuchDevice ifindex))) := by
  intro s kernel current
  subst kernel current
  have unnamed : s.host.kernel.nameOf s.host.current ifindex =
      .error .noAddress := by
    rw [linkAt?] at missing
    rw [nameOf, missing]
  exact ⟨s.noting (.indexUnresolved ifindex .noAddress), by
    simp [Machine.resolveName, outcome_bind, unnamed], rfl⟩

theorem yields_name (found : k.linkAt? netns ifindex = some l)
    {name : String} (spelled : Text.octets name = visibleName l.name) :
    k.Yields netns (Machine.resolveName ifindex) (.ok name) := by
  intro s kernel current
  subst kernel current
  have named : s.host.kernel.nameOf s.host.current ifindex =
      .ok (Text.octets name) := by
    rw [linkAt?] at found
    rw [nameOf, found, spelled]
  exact ⟨s, by
    simp [Machine.resolveName, outcome_bind, named, Text.decodeLossy_octets],
    rfl⟩

theorem yields_state (willing : k.Willing) (identified : k.Identifies l)
    (listed : l ∈ k.links) (placed : l.netns = netns) {name : String}
    (spelled : Text.octets name = visibleName l.name) :
    k.Yields netns (Machine.linkState name)
      (.ok (.ofKernel l.flags l.mtu)) := by
  intro s kernel current
  subst kernel current
  refine ⟨s, Machine.outcome_linkState_named willing ?_ ?_, rfl⟩
  · exact spelled ▸ fits_visibleName identified.nonempty
  · exact spelled ▸ identified.named_eq listed placed

/-- An interface is queried for its name and its state. -/
theorem yields_query (willing : k.Willing)
    (found : k.linkAt? netns ifindex = some l)
    (identified : k.Identifies l) {name : String}
    (spelled : Text.octets name = visibleName l.name) :
    k.Yields netns (do
        let devName ← Machine.resolveName ifindex
        let state ← Machine.linkState devName
        return (devName, state))
      (.ok (name, .ofKernel l.flags l.mtu)) := by
  obtain ⟨listed, placed⟩ := mem_of_linkAt? found
  refine Yields.bind (yields_name found spelled) ?_
  refine Yields.bind (yields_state willing identified listed placed spelled) ?_
  exact .pure k netns _

end Kernel

/-! ## Queries away from home -/

namespace Machine

variable {config : NamespaceConfig} {m : Machine} {context : Context}
  {handle : Option Handle} {operation : String} {s : Session Machine}
  {act : Action (Session Machine) α}

/-- No call fails by itself, and the thread can find the way back from another
namespace. -/
structure Serviceable (config : NamespaceConfig) (m : Machine) : Prop where
  willing : m.kernel.Willing
  maskable : m.Maskable
  wayBack : ∃ self, m.openFile config.selfPath = .ok self ∧
    m.namespaceOf? self = some m.current

/-- The namespace in which something is run in a context with this handle. -/
def leadsTo? (m : Machine) (context : Context) (handle : Option Handle) :
    Option String :=
  if context.isDefault then some m.current
  else (handle.bind Handle.object).bind m.namespaceOf?

theorem Serviceable.allowed (serviceable : m.Serviceable config)
    (netns : String) : ¬ m.kernel.refuses netns = true := by
  simp [Kernel.refuses, serviceable.willing.switches]

/-- Whoever returns from another namespace leaves the machine as it was. -/
theorem returned_entered (maskable : m.Maskable) (netns : String) :
    returned (savedSignals config m) (entered config m netns) m.current =
      m := by
  rw [Maskable] at maskable
  cases blocks : config.blockSignals <;>
    simp [returned, savedSignals, entered, blocks, maskable]

/-- A query that is run in a context answers what it yields where the context
leads, and the machine is as before. -/
theorem run_yields (operation : String)
    (serviceable : s.host.Serviceable config) {netns : String}
    {result : Outcome α}
    (leads : s.host.leadsTo? context handle = some netns)
    (yields : s.host.kernel.Yields netns act result) :
    ∃ t, outcome
        (runInNamespace (provider config) context handle operation act) s =
        (result, t) ∧ t.host = s.host := by
  cases named : context.isDefault with
  | true =>
    rw [leadsTo?, if_pos named] at leads
    rw [outcome_runInNamespace_default _ _ _ _ handle named]
    exact yields s rfl (Option.some.inj leads)
  | false =>
    rw [leadsTo?, if_neg (by simp [named])] at leads
    obtain ⟨object, held, reaches⟩ := Option.bind_eq_some_iff.mp leads
    obtain ⟨⟨name, _⟩, rfl, rfl⟩ := Option.bind_eq_some_iff.mp held
    obtain ⟨self, opening, home⟩ := serviceable.wayBack
    obtain ⟨t, entering, inside⟩ := enter_switched
      (s := s.noting (.switching context.name operation)) name reaches opening
      (serviceable.allowed netns)
    obtain ⟨u, acting, untouched⟩ := yields t (by rw [inside]; rfl)
      (by rw [inside]; rfl)
    have away : u.host = entered config s.host netns :=
      untouched.trans inside
    have path : u.host.namespaceOf? self = some s.host.current := by
      rw [away]
      exact home
    have back : ¬ u.host.kernel.refuses s.host.current = true := by
      rw [away]
      exact serviceable.allowed s.host.current
    obtain ⟨v, leaving, restored⟩ := exit_switched config u
      ⟨name, some self, savedSignals config s.host⟩ rfl path back
    rw [away, returned_entered serviceable.maskable] at restored
    refine ⟨v.noting (.switchedBack name operation), ?_, restored⟩
    rw [outcome_runInNamespace_entered _ _ _ _ _ named entering, acting]
    simp only [Scope.outcome_restore, Session.host_noting, leaving,
      Scope.ending]

/-- What is run in a context that leads nowhere fails, and the machine is as
before. -/
theorem run_astray (serviceable : s.host.Serviceable config)
    (astray : s.host.leadsTo? context handle = none) :
    ∃ e t, outcome
        (runInNamespace (provider config) context handle operation act) s =
        (.error (.error e), t) ∧ t.host = s.host := by
  cases named : context.isDefault with
  | true => simp [leadsTo?, named] at astray
  | false =>
    cases handle with
    | none =>
      exact ⟨_, _, outcome_runInNamespace_closed _ _ _ _ named, rfl⟩
    | some handle =>
      rcases enter_cases (s := s.noting (.switching context.name operation))
        config handle serviceable.maskable with ⟨e, failed⟩ |
          ⟨object, _, netns, _, held, _, reaches, _, _⟩
      · exact ⟨_, _, outcome_runInNamespace_refused _ _ _ _ _ named failed,
          rfl⟩
      · have found : s.host.leadsTo? context (some handle) = some netns := by
          simpa [leadsTo?, named, held] using reaches
        rw [found] at astray
        cases astray

end Machine

end InterfaceManager

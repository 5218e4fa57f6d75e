import InterfaceManager.Proofs.System.Files
import InterfaceManager.Proofs.System.Queries

/-!
# Interfaces by their names and indexes

A query by name goes to the interface that has exactly this name.  A query by
index first asks for the name, and so it goes to the interface that has the
name as it was decoded.  That is the interface with the index if its name is a
text; otherwise the decoded name is another one, and it may be the name of
another interface.
-/

namespace InterfaceManager

open InterfaceManager.Action

namespace Kernel

variable {k : Kernel} {netns : String} {l : KernelLink}
  {name : Text.Octets} {field : NameField}

theorem Fits.visibleName_eq (fits : Fits name) : visibleName name = name := by
  have kept : name.take (nameSize - 1) = name :=
    List.take_of_length_le (Nat.le_sub_one_of_lt fits.short)
  have nonzero : ∀ b ∈ name, (b != 0) = true := by
    intro b among
    simp only [bne_iff_ne]
    exact fun zero => fits.whole (zero ▸ among)
  have all : (name ++ []).takeWhile (fun b => b != 0) = name ++ [] :=
    List.takeWhile_append_of_pos nonzero
  rw [List.append_nil] at all
  rw [visibleName, kept, all]

/-- The interfaces of a namespace have names of their own, which fit. -/
structure WellNamed (k : Kernel) (netns : String) : Prop where
  fits : ∀ l ∈ k.links, l.netns = netns → Fits l.name
  apart : ∀ l ∈ k.links, ∀ other ∈ k.links, l.netns = netns →
    other.netns = netns → l.name = other.name → l = other

/-- The interfaces of a namespace have indexes of their own, and names of
their own as system calls see them. -/
structure Distinguishes (k : Kernel) (netns : String) : Prop where
  byIndex : ∀ l ∈ k.links, ∀ other ∈ k.links, l.netns = netns →
    other.netns = netns → l.ifindex = other.ifindex → l = other
  byName : ∀ l ∈ k.links, ∀ other ∈ k.links, l.netns = netns →
    other.netns = netns → visibleName l.name = visibleName other.name →
    l = other

theorem flagsOf_ok {flags : Int16} (told : k.flagsOf netns field = .ok flags) :
    ∃ l, k.named netns field = .ok l ∧ l.flags = flags := by
  rw [flagsOf] at told
  split at told
  · cases told
  · rcases found : k.named netns field with e | l <;> rw [found] at told <;>
      cases told
    exact ⟨l, rfl, rfl⟩

theorem mtuOf_ok {mtu : Int32} (told : k.mtuOf netns field = .ok mtu) :
    ∃ l, k.named netns field = .ok l ∧ l.mtu = mtu := by
  rw [mtuOf] at told
  split at told
  · cases told
  · rcases found : k.named netns field with e | l <;> rw [found] at told <;>
      cases told
    exact ⟨l, rfl, rfl⟩

end Kernel

/-! ## Queries by name -/

/-- An interface is up if the lowest bit of its flags says so, whatever the
others are. -/
theorem LinkState.ofKernel_up (flags : Int16) (mtu : Int32) :
    (ofKernel flags mtu).up = flags.toBitVec.getLsbD 0 := by
  have masked : (flags &&& 1).toBitVec =
      BitVec.setWidth 16 (BitVec.ofBool (flags.toBitVec.getLsbD 0)) := by
    rw [Int16.toBitVec_and]
    exact BitVec.and_one_eq_setWidth_ofBool_getLsbD
  simp only [ofKernel]
  rw [Bool.eq_iff_iff, bne_iff_ne, Ne, ← Int16.toBitVec_inj, masked]
  cases flags.toBitVec.getLsbD 0 <;> decide

theorem LinkState.eq_ofKernel_iff {state : LinkState} {flags : Int16}
    {mtu : Int32} :
    state = .ofKernel flags mtu ↔
      state.up = flags.toBitVec.getLsbD 0 ∧
        (state.mtu.toNat : Int) = max 0 mtu.toInt := by
  rw [← ofKernel_up flags mtu, ← toNat_ofKernel_mtu flags]
  constructor
  · rintro rfl
    exact ⟨rfl, rfl⟩
  · rintro ⟨up, measured⟩
    have same := UInt32.toNat_inj.mp (Int.ofNat.inj measured)
    obtain ⟨_, _⟩ := state
    simp_all

namespace Machine

variable {s t : Session Machine} {devName : String} {state : LinkState}
  {l : KernelLink}

theorem queryName_misfit (misfit : ¬ Kernel.Fits (Text.octets devName)) :
    queryName devName = .error
      (.linkControl "ifreq" s!"Invalid interface name '{devName}'") := by
  refine if_pos (Classical.byContradiction fun fits => misfit ?_)
  simp only [not_or] at fits
  exact ⟨fits.1, Nat.lt_of_not_le fits.2.1, fits.2.2⟩

/-- A name that does not fit is refused before anything is asked. -/
theorem outcome_linkState_misfit
    (misfit : ¬ Kernel.Fits (Text.octets devName))
    (socket : s.host.kernel.socketError = none) :
    outcome (linkState devName) s =
      (.error (.error
        (.linkControl "ifreq" s!"Invalid interface name '{devName}'")), s) := by
  simp [linkState, outcome_bind, Kernel.socket, socket,
    queryName_misfit misfit, Action.ofExcept]

/-- What is answered about a name that fits is what the kernel knows of the
interface with the name. -/
theorem linkState_ok
    (answered : outcome (linkState devName) s = (.ok state, t)) :
    t = s ∧ Kernel.Fits (Text.octets devName) ∧
      ∃ l, s.host.kernel.named s.host.current
          (.holding (Text.octets devName)) = .ok l ∧
        state = .ofKernel l.flags l.mtu := by
  rcases socket : s.host.kernel.socket with e | ⟨⟩
  · simp [linkState, outcome_bind, socket] at answered
  by_cases fits : Kernel.Fits (Text.octets devName)
  · have asked := queryName_fits fits
    rcases flagged : s.host.kernel.flagsOf s.host.current
        (.holding (Text.octets devName)) with e | flags
    · simp [linkState, outcome_bind, socket, asked, Action.ofExcept, flagged,
        answer] at answered
    rcases measured : s.host.kernel.mtuOf s.host.current
        (.holding (Text.octets devName)) with e | mtu
    · simp [linkState, outcome_bind, socket, asked, Action.ofExcept, flagged,
        measured, answer, outcome_map, Except.map] at answered
    simp only [linkState, outcome_bind, outcome_get, socket, asked,
      Action.ofExcept, outcome_pure, flagged, measured, answer,
      Prod.mk.injEq, Except.ok.injEq] at answered
    obtain ⟨rfl, rfl⟩ := answered
    obtain ⟨l, found, rfl⟩ := Kernel.flagsOf_ok flagged
    obtain ⟨other, found', rfl⟩ := Kernel.mtuOf_ok measured
    obtain rfl := Except.ok.inj (found.symm.trans found')
    exact ⟨rfl, fits, l, found, rfl⟩
  · simp [linkState, outcome_bind, socket, queryName_misfit fits,
      Action.ofExcept] at answered

/-- The state of an interface is told for its exact name and for no other
text.  A text that is empty, fills the field or holds a zero octet is refused
whatever the kernel would say. -/
theorem linkState_exact (willing : s.host.kernel.Willing)
    (wellNamed : s.host.kernel.WellNamed s.host.current)
    (devName : String) :
    (∀ state,
      (∃ t, outcome (linkState devName) s = (.ok state, t)) ↔
      ∃ l ∈ s.host.kernel.links, l.netns = s.host.current ∧
        l.name = Text.octets devName ∧
        state.up = l.flags.toBitVec.getLsbD 0 ∧
        (state.mtu.toNat : Int) = max 0 l.mtu.toInt) ∧
    (Text.octets devName = [] ∨
        Kernel.nameSize ≤ (Text.octets devName).length ∨
        0 ∈ Text.octets devName →
      ∀ u : Session Machine, u.host.kernel.socketError = none →
        outcome (linkState devName) u =
          (.error (.error (.linkControl "ifreq"
            s!"Invalid interface name '{devName}'")), u)) := by
  refine ⟨fun state => ⟨?_, ?_⟩, fun bad u socket => ?_⟩
  · rintro ⟨t, answered⟩
    obtain ⟨-, fits, l, found, told⟩ := linkState_ok answered
    obtain ⟨listed, placed, held⟩ := Kernel.named_ok found
    rw [fits.name_holding,
      (wellNamed.fits l listed placed).visibleName_eq] at held
    exact ⟨l, listed, placed, held, LinkState.eq_ofKernel_iff.mp told⟩
  · rintro ⟨l, listed, placed, spelled, told⟩
    have fits : Kernel.Fits (Text.octets devName) :=
      spelled ▸ wellNamed.fits l listed placed
    have held : Kernel.visibleName l.name =
        (Kernel.NameField.holding (Text.octets devName)).name := by
      rw [fits.name_holding, spelled,
        fits.visibleName_eq]
    obtain ⟨other, found⟩ := Kernel.exists_named_ok listed placed held
    obtain ⟨listed', placed', held'⟩ := Kernel.named_ok found
    rw [← held, (wellNamed.fits l listed placed).visibleName_eq,
      (wellNamed.fits other listed' placed').visibleName_eq] at held'
    obtain rfl := wellNamed.apart other listed' l listed placed' placed held'
    refine ⟨s, ?_⟩
    rw [outcome_linkState_named willing fits found,
      LinkState.eq_ofKernel_iff.mpr told]
  · refine outcome_linkState_misfit (fun fits => ?_) socket
    rcases bad with empty | long | zero
    · exact fits.nonempty empty
    · exact Nat.not_le_of_lt fits.short long
    · exact fits.whole zero

/-- Two interfaces of which one has the longest name and the other its start,
with one flag set or all but one, and an interface elsewhere. -/
def longNames : Session Machine :=
  .start (.start .fresh { Kernel.empty with links :=
    [⟨"", ⟨1⟩, Text.octets "ééééééé", 1, -5⟩,
      ⟨"", ⟨2⟩, Text.octets "éééééééx", -2, 9000⟩,
      ⟨"ns", ⟨1⟩, Text.octets "eth0", 1, 1500⟩] })

theorem linkState_longNames :
    longNames.host.kernel.Willing ∧
    longNames.host.kernel.WellNamed longNames.host.current ∧
    (∃ t, outcome (linkState "ééééééé") longNames = (.ok ⟨true, 0⟩, t)) ∧
    (∃ t, outcome (linkState "éééééééx") longNames =
      (.ok ⟨false, 9000⟩, t)) ∧
    outcome (linkState "éééééééé") longNames =
      (.error (.error (.linkControl "ifreq"
        "Invalid interface name 'éééééééé'")), longNames) ∧
    ¬ ∃ t, outcome (linkState "eth0") longNames = (.ok ⟨true, 1500⟩, t) := by
  have willing : longNames.host.kernel.Willing := ⟨rfl, rfl, rfl, rfl⟩
  have wellNamed :
      longNames.host.kernel.WellNamed longNames.host.current :=
    ⟨by decide +kernel, by decide +kernel⟩
  refine ⟨willing, wellNamed, ?_, ?_, ?_, ?_⟩
  · exact ((linkState_exact willing wellNamed "ééééééé").1 _).mpr
      ⟨⟨"", ⟨1⟩, Text.octets "ééééééé", 1, -5⟩, by decide +kernel⟩
  · exact ((linkState_exact willing wellNamed "éééééééx").1 _).mpr
      ⟨⟨"", ⟨2⟩, Text.octets "éééééééx", -2, 9000⟩, by decide +kernel⟩
  · exact (linkState_exact willing wellNamed "éééééééé").2
      (by decide +kernel) longNames rfl
  · rw [(linkState_exact willing wellNamed "eth0").1]
    decide +kernel

/-! ## Queries by index -/

variable {ifindex : IfIndex} {name : String} {u : Session Machine}

theorem resolveName_ok
    (resolved : outcome (resolveName ifindex) s = (.ok name, t)) :
    t = s ∧ ∃ l ∈ s.host.kernel.links, l.netns = s.host.current ∧
      l.ifindex = ifindex ∧
      name = Text.decodeLossy (Kernel.visibleName l.name) := by
  simp only [resolveName, outcome_bind, outcome_get, Kernel.nameOf] at resolved
  rcases found : s.host.kernel.links.find? fun l =>
      l.netns == s.host.current && l.ifindex == ifindex with _ | l
  · simp [found, outcome_bind] at resolved
  · simp only [found, outcome_pure, Prod.mk.injEq, Except.ok.injEq] at resolved
    obtain ⟨rfl, rfl⟩ := resolved
    have matching := List.find?_some found
    simp only [Bool.and_eq_true, beq_iff_eq] at matching
    exact ⟨rfl, l, List.mem_of_find?_eq_some found, matching.1, matching.2,
      rfl⟩

/-- A query by index that gives a name leaves everything as it was. -/
theorem outcome_resolveName_of_value
    (value : (outcome (resolveName ifindex) s).1.toOption = some name) :
    outcome (resolveName ifindex) s = (.ok name, s) := by
  have resolved : outcome (resolveName ifindex) s =
      (.ok name, (outcome (resolveName ifindex) s).2) :=
    Prod.ext (eq_ok_of_toOption value) rfl
  rw [resolved, (resolveName_ok resolved).1]

/-- A query by name that gives a state leaves everything as it was. -/
theorem outcome_linkState_of_value
    (value : (outcome (linkState devName) s).1.toOption = some state) :
    outcome (linkState devName) s = (.ok state, s) := by
  have answered : outcome (linkState devName) s =
      (.ok state, (outcome (linkState devName) s).2) :=
    Prod.ext (eq_ok_of_toOption value) rfl
  rw [answered, (linkState_ok answered).1]

/-- An interface that is queried by its index, first for its name and then by
the name, answers for itself if its name is a text.  If it is not, what
answers is another interface, which has the decoded name. -/
theorem linkState_of_resolved
    (distinguished : s.host.kernel.Distinguishes s.host.current)
    (resolved : outcome (resolveName ifindex) s = (.ok name, t))
    (answered : outcome (linkState name) t = (.ok state, u)) :
    ∃ l ∈ s.host.kernel.links, l.netns = s.host.current ∧
      l.ifindex = ifindex ∧
      ((∃ text, Text.octets text = Kernel.visibleName l.name) →
        state = .ofKernel l.flags l.mtu) ∧
      ((¬ ∃ text, Text.octets text = Kernel.visibleName l.name) →
        ∃ other ∈ s.host.kernel.links, other.netns = s.host.current ∧
          other.ifindex ≠ ifindex ∧
          Kernel.visibleName other.name = Text.octets name ∧
          state = .ofKernel other.flags other.mtu) := by
  obtain ⟨rfl, l, listed, placed, indexed, decoded⟩ := resolveName_ok resolved
  obtain ⟨-, fits, other, found, told⟩ := linkState_ok answered
  obtain ⟨listed', placed', held⟩ := Kernel.named_ok found
  rw [fits.name_holding] at held
  refine ⟨l, listed, placed, indexed, ?_, ?_⟩
  · rintro ⟨text, spelled⟩
    rw [← spelled, Text.decodeLossy_octets] at decoded
    have same : Kernel.visibleName other.name = Kernel.visibleName l.name := by
      rw [held, decoded, spelled]
    obtain rfl := distinguished.byName other listed' l listed placed' placed
      same
    exact told
  · intro unspelled
    refine ⟨other, listed', placed', fun indexed' => unspelled ?_, held, told⟩
    obtain rfl := distinguished.byIndex other listed' l listed placed' placed
      (indexed'.trans indexed.symm)
    exact ⟨name, held.symm⟩

/-- An interface whose name is no text, one with the name that it is decoded
to, and one with a name that is decoded to itself. -/
def oddNames : Session Machine :=
  .start (.start .fresh { Kernel.empty with links :=
    [⟨"", ⟨1⟩, [0xff], 1, 1000⟩, ⟨"", ⟨2⟩, Text.octets "�", 0, 2000⟩,
      ⟨"", ⟨3⟩, Text.octets "é", 1, 3000⟩] })

theorem resolved_oddNames :
    oddNames.host.kernel.Distinguishes oddNames.host.current ∧
    outcome (resolveName ⟨3⟩) oddNames = (.ok "é", oddNames) ∧
    outcome (linkState "é") oddNames = (.ok ⟨true, 3000⟩, oddNames) ∧
    ∃ l ∈ oddNames.host.kernel.links, l.ifindex = ⟨3⟩ ∧
      (⟨true, 3000⟩ : LinkState) = .ofKernel l.flags l.mtu := by
  have distinguished :
      oddNames.host.kernel.Distinguishes oddNames.host.current :=
    ⟨by decide +kernel, by decide +kernel⟩
  have resolved := outcome_resolveName_of_value (by decide +kernel :
    (outcome (resolveName ⟨3⟩) oddNames).1.toOption = some "é")
  have answered := outcome_linkState_of_value (by decide +kernel :
    (outcome (linkState "é") oddNames).1.toOption = some ⟨true, 3000⟩)
  have spelled : ∀ l ∈ oddNames.host.kernel.links, l.ifindex = ⟨3⟩ →
      Text.octets "é" = Kernel.visibleName l.name := by decide +kernel
  obtain ⟨l, listed, -, indexed, told, -⟩ :=
    linkState_of_resolved distinguished resolved answered
  exact ⟨distinguished, resolved, answered, l, listed, indexed,
    told ⟨"é", spelled l listed indexed⟩⟩

/-- A name that is no text is decoded to the name of another interface, which
answers in place of the one with the index. -/
theorem decoded_name_misleads :
    oddNames.host.kernel.Willing ∧
    oddNames.host.kernel.WellNamed oddNames.host.current ∧
    oddNames.host.kernel.Distinguishes oddNames.host.current ∧
    outcome (resolveName ⟨1⟩) oddNames = (.ok "�", oddNames) ∧
    outcome (linkState "�") oddNames = (.ok ⟨false, 2000⟩, oddNames) ∧
    ∀ l ∈ oddNames.host.kernel.links, l.ifindex = ⟨1⟩ →
      (⟨false, 2000⟩ : LinkState) ≠ .ofKernel l.flags l.mtu :=
  ⟨⟨rfl, rfl, rfl, rfl⟩, ⟨by decide +kernel, by decide +kernel⟩,
    ⟨by decide +kernel, by decide +kernel⟩,
    outcome_resolveName_of_value (by decide +kernel),
    outcome_linkState_of_value (by decide +kernel), by decide +kernel⟩

end Machine

end InterfaceManager

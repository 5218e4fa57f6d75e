import InterfaceManager.Proofs.CommandLine.Tasks
import InterfaceManager.Proofs.Device.Operation
import InterfaceManager.Proofs.Json.RoundTrip
import InterfaceManager.Proofs.System.Errands

/-!
# Showing an interface

What the program reports about an interface is what the kernel knows of the
interface with the selected index in the selected namespace.  If there is
none, the program fails and writes nothing.  In both cases the thread ends
where it started, with the signals that it had blocked.
-/

namespace InterfaceManager.CommandLine

open InterfaceManager.Action

/-- The selected interface, as the kernel knows it. -/
def Selection.link? (s : Selection) (config : NamespaceConfig)
    (m : Machine) : Option KernelLink :=
  (m.destination? config (s.netns.getD "")).bind fun netns =>
    m.kernel.linkAt? netns s.ifindex

section Selecting

variable {s : Selection} {config : NamespaceConfig} {m : Machine}

theorem Selection.link?_eq_some_iff {l : KernelLink} :
    s.link? config m = some l ↔
      ∃ netns, m.Selects config.runDir (s.netns.getD "") netns ∧
        m.kernel.linkAt? netns s.ifindex = some l := by
  simp only [Machine.selects_iff config, link?, Option.bind_eq_some_iff]

theorem Selection.link?_isSome_iff :
    (s.link? config m).isSome ↔
      ∃ netns, m.Selects config.runDir (s.netns.getD "") netns ∧
        ∃ l ∈ m.kernel.links, l.netns = netns ∧ l.ifindex = s.ifindex := by
  rw [Option.isSome_iff_exists]
  simp only [link?_eq_some_iff, ← Kernel.linkAt?_isSome,
    Option.isSome_iff_exists]
  exact ⟨fun ⟨l, netns, selected, listed⟩ => ⟨netns, selected, l, listed⟩,
    fun ⟨netns, selected, l, listed⟩ => ⟨l, netns, selected, listed⟩⟩

end Selecting

/-- The report says of the selected interface what the kernel knows: its
name as calls see it, whether its lowest flag is set, and its MTU, where a
negative one counts as zero. -/
structure InterfaceReport.Describes (r : InterfaceReport) (s : Selection)
    (l : KernelLink) : Prop where
  ifindex : r.ifindex = s.ifindex
  netns : r.netns = s.netns.getD ""
  devName : Text.octets r.devName = Kernel.visibleName l.name
  up : r.up = some (l.flags &&& 1 != 0)
  mtu : ∃ mtu, r.mtu = some mtu ∧ (mtu.toNat : Int) = max 0 l.mtu.toInt

def InterfaceReport.written (r : InterfaceReport) (json : Bool) : Lines :=
  if json then [r.toJson.pretty 0] else r.lines

section Written

variable {r : InterfaceReport} {s : Selection} {l : KernelLink}

theorem InterfaceReport.Describes.mtu_eq (describes : r.Describes s l) :
    ∃ mtu, r.mtu = some mtu ∧ (max 0 l.mtu.toInt).toNat = mtu.toNat := by
  obtain ⟨mtu, known, value⟩ := describes.mtu
  exact ⟨mtu, known, by omega⟩

/-- What a reader is told of the interface. -/
theorem InterfaceReport.Describes.lines_eq (describes : r.Describes s l) :
    let index := s.ifindex.raw.toNat
    let place := s.netns.getD ""
    let shown := if place = "" then "(current)" else place
    let state := if l.flags &&& 1 != 0 then "UP" else "DOWN"
    let mtu := (max 0 l.mtu.toInt).toNat
    r.lines =
      ["", s!"🔌 Interface {index} ({r.devName})",
        "------------------------------------------------------------",
        s!"Namespace:  {shown}", s!"State:      {state}",
        s!"MTU:        {mtu}",
        "------------------------------------------------------------"] := by
  obtain ⟨mtu, known, same⟩ := describes.mtu_eq
  have ruled : ruler =
      "------------------------------------------------------------" := by rfl
  rw [same, InterfaceReport.lines, describes.ifindex, describes.netns,
    describes.up, known, ruled]
  cases l.flags &&& 1 != 0 <;> rfl

/-- What a program is told of the interface. -/
theorem InterfaceReport.Describes.pretty_eq (describes : r.Describes s l) :
    let index := s.ifindex.raw.toNat
    let place := Json.renderString (s.netns.getD "")
    let name := Json.renderString r.devName
    let up := l.flags &&& 1 != 0
    let mtu := (max 0 l.mtu.toInt).toNat
    r.toJson.pretty 0 =
      s!"\x7b\n  \"ifindex\": {index},\n  \"netns\": {place},\n" ++
        s!"  \"dev_name\": {name},\n  \"up\": {up},\n" ++
        s!"  \"mtu\": {mtu}\n\x7d" := by
  obtain ⟨mtu, known, same⟩ := describes.mtu_eq
  have numbers : ∀ n : UInt32, (Json.nat n.toNat).pretty 1 =
      toString n.toNat := by
    intro n
    have small := n.toNat_lt
    have kept : n.toNat.toUInt64.toNat = n.toNat :=
      Nat.mod_eq_of_lt (by omega)
    exact congrArg toString kept
  have keys : Json.renderString "ifindex" = "\"ifindex\"" ∧
      Json.renderString "netns" = "\"netns\"" ∧
      Json.renderString "dev_name" = "\"dev_name\"" ∧
      Json.renderString "up" = "\"up\"" ∧
      Json.renderString "mtu" = "\"mtu\"" := ⟨rfl, rfl, rfl, rfl, rfl⟩
  have ends : Json.newline 1 = "\n  " ∧ Json.newline 0 = "\n" := ⟨rfl, rfl⟩
  have itself : ∀ t : String, toString t = t := fun _ => rfl
  rw [same, InterfaceReport.toJson, describes.ifindex, describes.netns,
    describes.up, known]
  simp only [Json.pretty, Json.prettyMembers, numbers, keys, ends]
  apply String.toList_inj.mp
  simp [itself]

end Written

section Show

variable {config : NamespaceConfig} {m : Machine} {selection : Selection}

theorem station_sound (config : NamespaceConfig) (m : Machine)
    (selection : Selection) :
    (selection.station (.start m)).manager.Sound (Machine.backend config)
      [(selection.station (.start m)).device] := by
  have fresh := (Manager.sound_start (Machine.backend config) m).allocate
    selection.deviceName
  exact fresh.replace rfl rfl ⟨rfl, fun _ => ⟨rfl, rfl⟩⟩

/-- An operation leaves sound books, whatever it ends in. -/
theorem sound_after {w t : Station} {act : Action Station Unit}
    {mayPanic : String → Prop} {result : Outcome Unit}
    (performed : DeviceState.Performed (Machine.backend config) [] w mayPanic
      act)
    (acting : outcome act w = (result, t)) :
    t.manager.Sound (Machine.backend config) [t.device] := by
  obtain ⟨_, _, same, advance, -⟩ := performed
  rw [acting] at same
  obtain ⟨rfl, rfl⟩ := Prod.mk.inj same
  exact advance.sound

/-- Showing a device that faces an interface reports it. -/
theorem outcome_showInterface {w : Station} {context : Context}
    {netns name : String} {l : KernelLink}
    (faces : w.Faces context netns name l)
    (serviceable : w.manager.session.host.Serviceable config)
    (identified : w.manager.session.host.kernel.Identifies l)
    (silent : w.device.callback = fun _ => none)
    (unobserved : w.device.up = none ∧ w.device.mtu = none)
    (json : Bool) (written : Lines) :
    ∃ t : Station,
      outcome (DeviceState.refresh (Machine.backend config)) w =
        (.ok (), t) ∧
      t.manager.session.host = w.manager.session.host ∧
      outcome (ExceptT.run (showInterface config json)) ⟨w, written⟩ =
        (.ok (.ok ()), ⟨t, written ++ InterfaceReport.written
          (.ofDevice (w.device.observing (.ofKernel l.flags l.mtu)))
          json⟩) := by
  obtain ⟨m, refreshing, same⟩ :=
    DeviceState.refresh_observes faces serviceable identified silent
      unobserved
  refine ⟨_, refreshing, same, ?_⟩
  rw [showInterface, refresh, Task.outcome_bind,
    Task.outcome_attempting_ok _ refreshing]
  dsimp only
  rw [Task.outcome_bind, Task.outcome_simply]
  exact Task.outcome_write _ _

/-- An interface that is there is reported. -/
theorem outcome_show_found (serviceable : m.Serviceable config)
    {l : KernelLink} (found : selection.link? config m = some l)
    (identified : m.kernel.Identifies l) (json : Bool) :
    ∃ (report : InterfaceReport) (d : Desk (Manager Machine)),
      outcome (ExceptT.run (withDevice config selection
        (showInterface config json))) ⟨.start m, []⟩ = (.ok (.ok ()), d) ∧
      report.Describes selection l ∧ d.written = report.written json ∧
      d.work.session.host = m := by
  obtain ⟨netns, leads, known⟩ := Option.bind_eq_some_iff.mp found
  obtain ⟨name, spelled⟩ := identified.text
  have answers := (Machine.backend_calm config).answers
  let station := selection.station (.start m)
  obtain ⟨context, opened, registering, same, reaches⟩ :=
    DeviceState.register_found (s := station) rfl rfl
      serviceable leads known spelled
  let w : Station := { station with
    manager := opened, device := station.device.attached context name }
  have host : w.manager.session.host = m := same
  have faces : w.Faces context netns name l :=
    ⟨rfl, rfl, reaches, by rw [host]; exact known, spelled⟩
  obtain ⟨t, refreshing, same', showing⟩ := outcome_showInterface faces
    (by rw [host]; exact serviceable) (by rw [host]; exact identified)
    (by funext kind; cases kind <;> rfl) ⟨rfl, rfl⟩ json []
  have soundOpened := sound_after
    (DeviceState.register_performed answers (fun _ => True)
      (station_sound config m selection)) registering
  obtain ⟨freed, freeing, same''⟩ := DeviceState.free_returns
    (sound_after (DeviceState.refresh_advance answers soundOpened) refreshing)
  refine ⟨_, _, outcome_withDevice_opened registering showing freeing, ?_,
    List.nil_append _, same''.trans (same'.trans host)⟩
  exact ⟨rfl, rfl, spelled, rfl, _, rfl, LinkState.toNat_ofKernel_mtu l.flags l.mtu⟩

/-- An interface that is not there cannot be shown. -/
theorem outcome_show_lost (serviceable : m.Serviceable config)
    (lost : selection.link? config m = none) (json : Bool) :
    ∃ (complaint : Complaint) (d : Desk (Manager Machine)),
      outcome (ExceptT.run (withDevice config selection
        (showInterface config json))) ⟨.start m, []⟩ =
        (.ok (.error complaint), d) ∧
      d.written = [] ∧ d.work.session.host = m := by
  have answers := (Machine.backend_calm config).answers
  have sound := station_sound config m selection
  obtain ⟨e, failed, registering, same⟩ := DeviceState.register_lost
    (s := selection.station (.start m)) rfl rfl serviceable
    sound.leased.sound (Option.bind_eq_none_iff.mp lost)
  obtain ⟨freed, freeing, same'⟩ := DeviceState.free_returns
    (sound_after (DeviceState.register_performed answers (fun _ => True) sound)
      registering)
  obtain ⟨attempt, complaining⟩ :=
    outcome_withDevice_unopened [] (showInterface config json) registering
      freeing
  exact ⟨_, _, complaining, rfl, same'.trans same⟩

end Show

/-! ## Runs of the program -/

namespace Invocation

/-- How the command of a run ends, and the desk that it leaves. -/
def course (i : Invocation) (m : Machine) :
    Outcome (Except Complaint Unit) × Desk (Manager Machine) :=
  outcome (ExceptT.run (runCommand i.config i.command)) ⟨.start m, []⟩

def machineAfter (i : Invocation) (m : Machine) : Machine :=
  (i.course m).2.work.session.host

variable {i : Invocation} {m : Machine} {d : Desk (Manager Machine)}

theorem run_done (asked : Option String)
    (done : i.course m = (.ok (.ok ()), d)) :
    (i.run asked m).code = 0 ∧ (i.run asked m).output = d.written := by
  rw [course] at done
  simp [run, done]

theorem run_complained (asked : Option String) {complaint : Complaint}
    (complained : i.course m = (.ok (.error complaint), d)) :
    (i.run asked m).code = 1 ∧ (i.run asked m).output = d.written := by
  rw [course] at complained
  simp [run, complained]

theorem machineAfter_eq {result : Outcome (Except Complaint Unit)}
    (course : i.course m = (result, d)) :
    i.machineAfter m = d.work.session.host := by
  rw [machineAfter, course]

end Invocation

/-- The program reports what the kernel knows of the selected interface, if a
namespace is selected and has the interface, and otherwise it fails and writes
nothing to the standard output.  In either case the machine is left as it was,
with its thread in the same namespace and the same signals blocked. -/
theorem run_shows {words : List String} {verbose json : Bool} {dir : String}
    {selection : Selection} {m : Machine}
    (accepted : parse words = .ok ⟨verbose, some dir, .show selection json⟩)
    (serviceable : m.Serviceable
      { NamespaceConfig.preset with runDir := Text.octets dir })
    (identified : ∀ netns l,
      m.Selects (Text.octets dir) (selection.netns.getD "") netns →
      m.kernel.linkAt? netns selection.ifindex = some l →
      m.kernel.Identifies l)
    (asked : Option String) :
    let ending := run m asked words
    let index := selection.ifindex.raw.toNat
    let place := selection.netns.getD ""
    (ending.code = 0 ↔ ∃ netns, m.Selects (Text.octets dir) place netns ∧
      ∃ l ∈ m.kernel.links,
        l.netns = netns ∧ l.ifindex = selection.ifindex) ∧
    (∀ netns l, m.Selects (Text.octets dir) place netns →
      m.kernel.linkAt? netns selection.ifindex = some l →
      ∃ name, Text.octets name = Kernel.visibleName l.name ∧
        let up := l.flags &&& 1 != 0
        let mtu := (max 0 l.mtu.toInt).toNat
        if json then
          let quotedPlace := Json.renderString place
          let quotedName := Json.renderString name
          Json.parse? quotedPlace = some (.string place) ∧
          Json.parse? quotedName = some (.string name) ∧
          ending.output =
            [s!"\x7b\n  \"ifindex\": {index},\n  \"netns\": {quotedPlace},\n" ++
              s!"  \"dev_name\": {quotedName},\n  \"up\": {up},\n" ++
              s!"  \"mtu\": {mtu}\n\x7d"]
        else
          let shown := if place = "" then "(current)" else place
          let state := if up then "UP" else "DOWN"
          ending.output =
            ["", s!"🔌 Interface {index} ({name})",
              "------------------------------------------------------------",
              s!"Namespace:  {shown}", s!"State:      {state}",
              s!"MTU:        {mtu}",
              "------------------------------------------------------------"]) ∧
    (ending.code = 0 ∨ ending.code = 1 ∧ ending.output = []) ∧
    Invocation.machineAfter ⟨verbose, some dir, .show selection json⟩ m =
      m := by
  intro ending index place
  let config := { NamespaceConfig.preset with runDir := Text.octets dir }
  let i : Invocation := ⟨verbose, some dir, .show selection json⟩
  have running : ending = i.run asked m := by
    simp only [ending, run, accepted, i]
  have exists_iff : (selection.link? config m).isSome ↔
      ∃ netns, m.Selects (Text.octets dir) place netns ∧
        ∃ l ∈ m.kernel.links,
          l.netns = netns ∧ l.ifindex = selection.ifindex :=
    Selection.link?_isSome_iff
  have known_iff : ∀ l, selection.link? config m = some l ↔
      ∃ netns, m.Selects (Text.octets dir) place netns ∧
        m.kernel.linkAt? netns selection.ifindex = some l :=
    fun _ => Selection.link?_eq_some_iff
  rw [← exists_iff, running]
  rcases known : selection.link? config m with _ | l
  · obtain ⟨complaint, d, course, silent, same⟩ :=
      outcome_show_lost serviceable known json
    obtain ⟨code, output⟩ := Invocation.run_complained (i := i) asked course
    refine ⟨by simp [code], fun netns l selected listed => ?_,
      Or.inr ⟨code, output.trans silent⟩,
      (Invocation.machineAfter_eq (i := i) course).trans same⟩
    have found := (known_iff l).mpr ⟨netns, selected, listed⟩
    rw [known] at found
    cases found
  · obtain ⟨netns, selected, listed⟩ := (known_iff l).mp known
    obtain ⟨report, d, course, describes, written, same⟩ :=
      outcome_show_found serviceable known (identified netns l selected listed)
        json
    obtain ⟨code, output⟩ := Invocation.run_done (i := i) asked course
    refine ⟨by simp [code], fun netns' l' selected' listed' => ?_,
      Or.inl code, (Invocation.machineAfter_eq (i := i) course).trans same⟩
    have found := (known_iff l').mpr ⟨netns', selected', listed'⟩
    cases known.symm.trans found
    refine ⟨report.devName, describes.devName, ?_⟩
    have readable : ∀ text : String,
        Json.parse? (Json.renderString text) = some (.string text) :=
      fun text => Json.parse?_render (.string text) trivial
    cases json with
    | true =>
      exact ⟨readable place, readable report.devName,
        (output.trans written).trans (congrArg ([·]) describes.pretty_eq)⟩
    | false => exact (output.trans written).trans describes.lines_eq

/-- A machine with two namespaces besides the default one, at files of the
directory `netns`. -/
def twoNamespaces (links : List KernelLink) : Machine :=
  .start (Machine.createFiles .fresh
    [(Text.octets "netns/ns_a", .file (.namespace "ns_a")),
      (Text.octets "netns/ns_b", .file (.namespace "ns_b"))])
    { Kernel.empty with links }

/-- Interfaces of three namespaces, all with the same index. -/
def sameIndex : List KernelLink :=
  [⟨"", ⟨3⟩, Text.octets "eth0", 0, 1500⟩,
    ⟨"ns_a", ⟨3⟩, Text.octets "wg0", 1, 1420⟩,
    ⟨"ns_b", ⟨3⟩, Text.octets "eth0", 1, -1⟩]

theorem run_shows_sameIndex :
    let config :=
      { NamespaceConfig.preset with runDir := Text.octets "netns" }
    let words := ["--netns-dir", "netns", "show", "-n", "ns_a", "-i", "3"]
    let selection : Selection := ⟨⟨3⟩, some "ns_a"⟩
    let l : KernelLink := ⟨"ns_a", ⟨3⟩, Text.octets "wg0", 1, 1420⟩
    let m := twoNamespaces sameIndex
    parse words = .ok ⟨false, some "netns", .show selection false⟩ ∧
    parse (words ++ ["--json"]) =
      .ok ⟨false, some "netns", .show selection true⟩ ∧
    m.Serviceable config ∧
    m.Selects (Text.octets "netns") "ns_a" "ns_a" ∧
    m.kernel.linkAt? "ns_a" ⟨3⟩ = some l ∧ m.kernel.Identifies l ∧
    (run m none words).code = 0 ∧
    (run m none words).output =
      ["", "🔌 Interface 3 (wg0)",
        "------------------------------------------------------------",
        "Namespace:  ns_a", "State:      UP", "MTU:        1420",
        "------------------------------------------------------------"] ∧
    (run m none (words ++ ["--json"])).output =
      ["\x7b\n  \"ifindex\": 3,\n  \"netns\": \"ns_a\",\n" ++
        "  \"dev_name\": \"wg0\",\n  \"up\": true,\n  \"mtu\": 1420\n\x7d"] := by
  intro config words selection l m
  have accepted : parse words =
      .ok ⟨false, some "netns", .show selection false⟩ :=
    Machine.eq_ok_of_toOption (by decide +kernel)
  have accepted' : parse (words ++ ["--json"]) =
      .ok ⟨false, some "netns", .show selection true⟩ :=
    Machine.eq_ok_of_toOption (by decide +kernel)
  have serviceable : m.Serviceable config :=
    ⟨⟨rfl, rfl, rfl, rfl⟩, Machine.maskable_start _ _, .namespace "",
      Machine.eq_ok_of_toOption (by decide +kernel), rfl⟩
  have leads : m.destination? config "ns_a" = some "ns_a" := by
    decide +kernel
  have selected : m.Selects (Text.octets "netns") "ns_a" "ns_a" :=
    (Machine.selects_iff config).mpr leads
  have listed : m.kernel.linkAt? "ns_a" ⟨3⟩ = some l := by decide +kernel
  have identified : m.kernel.Identifies l :=
    ⟨⟨"wg0", by decide +kernel⟩, by decide +kernel, by decide +kernel⟩
  have identifies : ∀ netns other,
      m.Selects (Text.octets "netns") "ns_a" netns →
      m.kernel.linkAt? netns ⟨3⟩ = some other →
      m.kernel.Identifies other := by
    intro netns other there same
    cases leads.symm.trans ((Machine.selects_iff config).mp there)
    cases listed.symm.trans same
    exact identified
  obtain ⟨code, reports, -, -⟩ :=
    run_shows accepted serviceable identifies none
  obtain ⟨-, reports', -, -⟩ :=
    run_shows accepted' serviceable identifies none
  have called : ∀ name, Text.octets name = Kernel.visibleName l.name →
      name = "wg0" := by
    intro name same
    have whole : Kernel.visibleName l.name = Text.octets "wg0" := by
      decide +kernel
    exact Text.octets_inj.mp (same.trans whole)
  refine ⟨accepted, accepted', serviceable, selected, listed, identified,
    code.mpr ⟨"ns_a", selected, l, by decide +kernel⟩, ?_, ?_⟩
  · obtain ⟨name, same, output⟩ := reports "ns_a" l selected listed
    obtain rfl := called name same
    refine Eq.trans output ?_
    decide +kernel
  · obtain ⟨name, same, -, -, output⟩ := reports' "ns_a" l selected listed
    obtain rfl := called name same
    refine Eq.trans output ?_
    decide +kernel

/-- An interface with a name that is cut off inside a character or is empty
cannot be shown, although it is there.  If another one has the same name, its
state may be shown instead. -/
theorem interfaces_misreported :
    let config :=
      { NamespaceConfig.preset with runDir := Text.octets "netns" }
    let words := ["--netns-dir", "netns", "show", "-i", "3"]
    let selection : Selection := ⟨⟨3⟩, none⟩
    let long : KernelLink := ⟨"", ⟨3⟩, Text.octets "éééééééé", 1, 1300⟩
    let unnamed : KernelLink := ⟨"", ⟨3⟩, Text.octets "", 1, 1300⟩
    let second : KernelLink := ⟨"", ⟨3⟩, Text.octets "eth0", 1, 1300⟩
    let namesakes : List KernelLink :=
      [⟨"", ⟨1⟩, Text.octets "eth0", 0, 1500⟩, second,
        ⟨"", ⟨5⟩, Text.octets "eth0", 0, 1500⟩]
    parse words = .ok ⟨false, some "netns", .show selection false⟩ ∧
    (∀ links, (twoNamespaces links).Serviceable config ∧
      (twoNamespaces links).Selects (Text.octets "netns") "" "") ∧
    (twoNamespaces [long]).kernel.links = [long] ∧
    (run (twoNamespaces [long]) none words).code = 1 ∧
    (twoNamespaces [unnamed]).kernel.links = [unnamed] ∧
    (run (twoNamespaces [unnamed]) none words).code = 1 ∧
    (twoNamespaces namesakes).kernel.linkAt? "" ⟨3⟩ = some second ∧
    (run (twoNamespaces namesakes) none words).code = 0 ∧
    (run (twoNamespaces namesakes) none words).output =
      ["", "🔌 Interface 3 (eth0)",
        "------------------------------------------------------------",
        "Namespace:  (current)", "State:      DOWN", "MTU:        1500",
        "------------------------------------------------------------"] := by
  intro config words selection long unnamed second namesakes
  have opens : (twoNamespaces []).openFile config.selfPath =
      .ok (.namespace "") := Machine.eq_ok_of_toOption (by decide +kernel)
  have serviceable : ∀ links, (twoNamespaces links).Serviceable config := by
    intro links
    refine ⟨⟨rfl, rfl, rfl, rfl⟩, Machine.maskable_start _ _, .namespace "",
      ?_, rfl⟩
    -- The files do not depend on the interfaces.
    rw [Machine.openFile, Machine.lookup] at opens ⊢
    exact opens
  exact ⟨Machine.eq_ok_of_toOption (by decide +kernel),
    fun links => ⟨serviceable links, .current⟩,
    rfl, by decide +kernel, rfl, by decide +kernel, by decide +kernel,
    by decide +kernel, by decide +kernel⟩

end InterfaceManager.CommandLine

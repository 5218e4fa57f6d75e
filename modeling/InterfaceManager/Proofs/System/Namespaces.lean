import InterfaceManager.Proofs.Outcome
import InterfaceManager.Proofs.System.Files
import InterfaceManager.Proofs.Text.Order
import InterfaceManager.System.Namespaces

/-!
# The directory of named namespaces

A namespace name is an absolute path, or it is the name of an entry of one
directory, or it is refused.  Names of the second kind cannot lead anywhere
else, and what is listed for the directory are its entries, each under the
name by which it can be opened.
-/

namespace InterfaceManager

open InterfaceManager.Action
open Text (Octets)

namespace Text

open InterfaceManager.Path (slash)

/-- Among the octets of a text, a slash stands for a slash. -/
theorem slash_mem_octets_iff {text : String} :
    slash ∈ octets text ↔ '/' ∈ text.toList := by
  rw [octets_eq_flatMap, List.mem_flatMap]
  constructor
  · rintro ⟨c, among, inside⟩
    exact eq_of_mem_encode inside (by decide) ▸ among
  · exact fun among => ⟨'/', among, by decide⟩

theorem isAbsolute_octets_iff {text : String} :
    Path.isAbsolute (octets text) = true ↔ text.toList.head? = some '/' := by
  rw [Path.isAbsolute, beq_iff_eq, octets_eq_flatMap]
  cases text.toList with
  | nil => simp
  | cons c cs =>
    obtain ⟨b, bs, encoded⟩ :=
      List.exists_cons_of_ne_nil (String.utf8EncodeChar_ne_nil (c := c))
    rw [List.flatMap_cons, encoded, List.cons_append, List.head?_cons,
      List.head?_cons, Option.some.injEq, Option.some.injEq]
    have among : b ∈ String.utf8EncodeChar c := by
      rw [encoded]
      exact List.mem_cons_self
    constructor
    · rintro rfl
      exact eq_of_mem_encode among (by decide)
    · rintro rfl
      exact List.mem_singleton.mp among

end Text

namespace Path

/-- Which texts an entry of a directory can be called. -/
theorem isEntryName_octets_iff {name : String} :
    IsEntryName (Text.octets name) ↔
      ¬ (name = "" ∨ name = "." ∨ name = ".." ∨ '/' ∈ name.toList) := by
  rw [isEntryName_iff, dot, dotDot, Text.octets_eq_nil_iff, Text.octets_inj,
    Text.octets_inj, Text.slash_mem_octets_iff]

end Path

namespace NamespaceConfig

variable {config : NamespaceConfig} {name : String} {path : Octets}

/-- The path of an entry of the directory of named namespaces. -/
def entryPath (c : NamespaceConfig) (name : String) : Octets :=
  Path.join c.runDir (Text.octets name)

/-- What a name stands for. -/
theorem namespacePath?_cases (config : NamespaceConfig) (name : String) :
    Path.isAbsolute (Text.octets name) = true ∧
        config.namespacePath? name = some (Text.octets name) ∨
      Path.isAbsolute (Text.octets name) = false ∧
        ¬ Path.IsEntryName (Text.octets name) ∧
        config.namespacePath? name = none ∨
      Path.isAbsolute (Text.octets name) = false ∧
        Path.IsEntryName (Text.octets name) ∧
        config.namespacePath? name = some (config.entryPath name) := by
  rw [namespacePath?]
  cases absolute : Path.isAbsolute (Text.octets name)
  · refine Or.inr ?_
    by_cases entry : Path.IsEntryName (Text.octets name)
    · refine Or.inr ⟨rfl, entry, ?_⟩
      rw [Path.isEntryName_octets_iff] at entry
      simp only [if_neg entry, entryPath]
      rfl
    · refine Or.inl ⟨rfl, entry, ?_⟩
      rw [Path.isEntryName_octets_iff, Classical.not_not] at entry
      simp only [if_pos entry]
      rfl
  · exact Or.inl ⟨rfl, rfl⟩

theorem namespacePath?_entry (config : NamespaceConfig)
    (entry : Path.IsEntryName (Text.octets name)) :
    config.namespacePath? name = some (config.entryPath name) := by
  rcases config.namespacePath?_cases name with
    ⟨absolute, -⟩ | ⟨-, other, -⟩ | ⟨-, -, located⟩
  · rw [entry.relative] at absolute
    cases absolute
  · exact absurd entry other
  · exact located

/-- A path for a name that is not absolute is the path of an entry. -/
theorem entry_of_namespacePath?
    (relative : Path.isAbsolute (Text.octets name) = false)
    (located : config.namespacePath? name = some path) :
    Path.IsEntryName (Text.octets name) ∧ path = config.entryPath name := by
  rcases config.namespacePath?_cases name with
    ⟨absolute, -⟩ | ⟨-, -, refused⟩ | ⟨-, entry, same⟩
  · rw [relative] at absolute
    cases absolute
  · rw [refused] at located
    cases located
  · rw [same] at located
    exact ⟨entry, (Option.some.inj located).symm⟩

theorem namespacePath?_eq_none_iff (config : NamespaceConfig)
    (name : String) :
    config.namespacePath? name = none ↔
      name = "" ∨ name = "." ∨ name = ".." ∨
        Path.isAbsolute (Text.octets name) = false ∧ '/' ∈ name.toList := by
  rcases config.namespacePath?_cases name with
    ⟨absolute, located⟩ | ⟨relative, refused, unlocated⟩ |
      ⟨relative, entry, located⟩
  · refine iff_of_false (by simp [located]) ?_
    rintro (rfl | rfl | rfl | ⟨relative, -⟩)
    · exact absurd absolute (by decide +kernel)
    · exact absurd absolute (by decide +kernel)
    · exact absurd absolute (by decide +kernel)
    · simp [relative] at absolute
  · rw [Path.isEntryName_octets_iff, Classical.not_not] at refused
    simpa [unlocated, relative] using refused
  · rw [Path.isEntryName_octets_iff] at entry
    simpa [located, relative] using entry

end NamespaceConfig

/-! ## Opening files by their names -/

namespace Machine

variable {config : NamespaceConfig} {m n : Machine} {name : String}
  {path : Octets} {s : Session Machine}

theorem outcome_openHandle_refused
    (refused : config.namespacePath? name = none) (s : Session Machine) :
    outcome (openHandle config name) s =
      (.error (.error (.namespaceOpen name "Invalid namespace name")), s) := by
  simp [openHandle, refused]

def handleTo (name : String) (path : Octets) :
    Except FileFault FileObject → Outcome Handle
  | .ok object => .ok ⟨name, some object⟩
  | .error fault => .error <| .error <| .namespaceOpen name
    s!"{Text.decodeLossy path}: {fault.message}"

theorem outcome_openHandle_located
    (located : config.namespacePath? name = some path)
    (s : Session Machine) :
    outcome (openHandle config name) s =
      (handleTo name path (s.host.openFile path),
        s.noting (.fileOpening name (Text.decodeLossy path))) := by
  rcases opened : s.host.openFile path with fault | object <;>
    simp [openHandle, located, outcome_bind, opened, handleTo]

theorem namespaceExists_located
    (located : config.namespacePath? name = some path) (m : Machine) :
    namespaceExists config m name = m.fileExists path := by
  simp [namespaceExists, located]

/-- Whether there is a file at a path decides whether it can be opened. -/
theorem fileExists_iff_openFile :
    m.fileExists path = true ↔ ∃ object, m.openFile path = .ok object := by
  rw [fileExists, openFile]
  rcases m.lookup path with fault | found <;>
    simp [Except.toOption, Except.map]

/-- A namespace that exists is one that can be opened. -/
theorem namespaceExists_iff_opens :
    namespaceExists config s.host name = true ↔
      ∃ handle t, outcome (openHandle config name) s = (.ok handle, t) := by
  rcases located : config.namespacePath? name with _ | path
  · simp [namespaceExists, located, outcome_openHandle_refused located]
  · rw [namespaceExists_located located, fileExists_iff_openFile,
      outcome_openHandle_located located]
    rcases s.host.openFile path with fault | object <;> simp [handleTo]

/-- The paths of the entry called `name` lead to the same files on two
machines, whose threads are in the same namespace. -/
structure LookAlike (config : NamespaceConfig) (name : String)
    (m n : Machine) : Prop where
  current : m.current = n.current
  lookup : ∀ path,
    Path.components path =
      Path.components config.runDir ++ [.normal (Text.octets name)] →
    m.lookup path = n.lookup path

theorem LookAlike.lookup_eq (alike : LookAlike config name m n)
    (relative : Path.isAbsolute (Text.octets name) = false)
    (located : config.namespacePath? name = some path) :
    m.lookup path = n.lookup path := by
  obtain ⟨entry, rfl⟩ :=
    NamespaceConfig.entry_of_namespacePath? relative located
  exact alike.lookup _ (Path.components_join _ entry)

theorem LookAlike.openFile_eq (alike : LookAlike config name m n)
    (same : m.lookup path = n.lookup path) :
    m.openFile path = n.openFile path := by
  have objects : m.objectOf = n.objectOf := by
    funext node
    cases node <;> simp [objectOf, alike.current]
  rw [openFile, openFile, same, objects]

end Machine

/-! ## No way out of the directory -/

/-- Only an absolute path leads to another file than an entry of the directory
of named namespaces. -/
structure NamespaceConfig.Confined (c : NamespaceConfig) : Prop where
  /-- An absolute path stands for itself. -/
  absolute : ∀ name, Path.isAbsolute (Text.octets name) = true →
    c.namespacePath? name = some (Text.octets name)
  /-- The names that are refused. -/
  refused : ∀ name, c.namespacePath? name = none ↔
    name = "" ∨ name = "." ∨ name = ".." ∨
      Path.isAbsolute (Text.octets name) = false ∧ '/' ∈ name.toList
  /-- Any other name is added to the directory as one component, and so the
  directory is what the path is in. -/
  entry : ∀ name path, Path.isAbsolute (Text.octets name) = false →
    c.namespacePath? name = some path →
    Path.components path =
      Path.components c.runDir ++ [.normal (Text.octets name)] ∧
    Path.parent? (Path.components path) = some (Path.components c.runDir)
  /-- Different names have different paths. -/
  apart : ∀ name name' path path',
    Path.isAbsolute (Text.octets name) = false →
    Path.isAbsolute (Text.octets name') = false →
    c.namespacePath? name = some path → c.namespacePath? name' = some path' →
    Path.components path = Path.components path' → name = name'
  /-- Of all files, only the entry called so decides what comes of a name. -/
  looks : ∀ name, Path.isAbsolute (Text.octets name) = false →
    ∀ m n, Machine.LookAlike c name m n →
    Machine.namespaceExists c m name = Machine.namespaceExists c n name ∧
    ∀ journal, ∃ result after,
      outcome (Machine.openHandle c name) ⟨m, journal⟩ = (result, ⟨m, after⟩) ∧
      outcome (Machine.openHandle c name) ⟨n, journal⟩ = (result, ⟨n, after⟩)
  /-- No file decides what comes of a name that is refused. -/
  untouched : ∀ name, c.namespacePath? name = none →
    (∀ m, Machine.namespaceExists c m name = false) ∧
    ∀ s, outcome (Machine.openHandle c name) s =
      (.error (.error (.namespaceOpen name "Invalid namespace name")), s)

namespace NamespaceConfig

theorem looks_at_entry (config : NamespaceConfig) {name : String}
    (relative : Path.isAbsolute (Text.octets name) = false) {m n : Machine}
    (alike : Machine.LookAlike config name m n) (journal : Journal) :
    Machine.namespaceExists config m name =
        Machine.namespaceExists config n name ∧
      ∃ result after,
        outcome (Machine.openHandle config name) ⟨m, journal⟩ =
          (result, ⟨m, after⟩) ∧
        outcome (Machine.openHandle config name) ⟨n, journal⟩ =
          (result, ⟨n, after⟩) := by
  rcases located : config.namespacePath? name with _ | path
  · have refused := Machine.outcome_openHandle_refused located
    refine ⟨by simp [Machine.namespaceExists, located], _, journal,
      refused _, refused _⟩
  · have same := alike.lookup_eq relative located
    refine ⟨?_, Machine.handleTo name path (n.openFile path),
      (Session.noting ⟨m, journal⟩
        (.fileOpening name (Text.decodeLossy path))).journal, ?_, ?_⟩
    · rw [Machine.namespaceExists_located located,
        Machine.namespaceExists_located located, Machine.fileExists,
        Machine.fileExists, same]
    · rw [Machine.outcome_openHandle_located located,
        alike.openFile_eq same]
      rfl
    · rw [Machine.outcome_openHandle_located located]
      rfl

/-- Names of namespaces cannot escape the directory, however the directory is
written. -/
theorem confined (config : NamespaceConfig) : config.Confined where
  absolute name absolute := by
    rcases config.namespacePath?_cases name with
      ⟨-, same⟩ | ⟨relative, -⟩ | ⟨relative, -⟩
    · exact same
    · rw [absolute] at relative
      cases relative
    · rw [absolute] at relative
      cases relative
  refused := config.namespacePath?_eq_none_iff
  entry name path relative located := by
    obtain ⟨entry, rfl⟩ := entry_of_namespacePath? relative located
    exact ⟨Path.components_join _ entry, Path.parent?_join _ entry⟩
  apart name name' path path' relative relative' located located' same := by
    obtain ⟨entry, rfl⟩ := entry_of_namespacePath? relative located
    obtain ⟨entry', rfl⟩ := entry_of_namespacePath? relative' located'
    exact Text.octets_inj.mp (Path.components_join_inj entry entry' same)
  looks name relative m n alike :=
    ⟨(config.looks_at_entry relative alike .empty).1,
      fun journal => (config.looks_at_entry relative alike journal).2⟩
  untouched name refused :=
    ⟨fun m => by simp [Machine.namespaceExists, refused],
      Machine.outcome_openHandle_refused refused⟩

end NamespaceConfig

/-! ## What is listed -/

/-- A name that a directory can give to an entry is one that an entry can have
in a path. -/
theorem FileTree.IsFileName.isEntryName {name : Octets}
    (proper : IsFileName name) : Path.IsEntryName name :=
  ⟨proper.nonempty, proper.notDot, proper.notDotDot, proper.noSlash⟩

namespace Machine

variable {config : NamespaceConfig} {m : Machine} {dir : Location}
  {text : String}

/-- A path leads to the name in a directory, as it would for someone who is
there: to what the name stands for, or on along a link. -/
structure Designates (m : Machine) (path : Octets) (dir : Location)
    (name : Octets) : Prop where
  onward : ∃ left ≤ FileTree.maxLinks,
    m.lookup path = (m.files.walk left dir [name]).mapError .os
  itself : ∀ node, m.files.node? (dir.child name) = some node →
    (∀ target, node ≠ .link target) →
    m.lookup path = .ok ⟨dir.child name, node⟩

theorem lookup_ok {path : Octets} {found : FileTree.Found}
    (looked : m.lookup path = .ok found) :
    0 ∉ path ∧ m.files.lookup path = .ok found := by
  rw [lookup] at looked
  split at looked
  · cases looked
  · next whole =>
    refine ⟨whole, ?_⟩
    rcases found : m.files.lookup path with e | other
    · rw [found] at looked
      cases looked
    · rw [found] at looked
      exact congrArg _ (Except.ok.inj looked)

theorem lookup_whole {path : Octets} (whole : 0 ∉ path) :
    m.lookup path = (m.files.lookup path).mapError .os := if_neg whole

section Entries

variable (proper : FileTree.IsFileName (Text.octets text))
  (found : m.lookup config.runDir = .ok ⟨dir, .directory⟩)

include proper found

/-- The parts of the path of an entry, before and after the slash between
them. -/
theorem entryPath_parts :
    ∃ front, (config.runDir = front ∧ front ≠ [] ∨
        config.runDir = front ++ [Path.slash]) ∧
      config.entryPath text = front ++ Path.slash :: Text.octets text ∧
      0 ∉ config.entryPath text := by
  obtain ⟨whole, looked⟩ := lookup_ok found
  rcases Path.join_cases config.runDir (Text.octets text) with
    ⟨empty, -⟩ | ⟨front, written, below⟩
  · rw [empty] at looked
    cases looked
  · have front_whole : 0 ∉ front := by
      rcases written with ⟨same, -⟩ | same
      · exact same ▸ whole
      · rw [same] at whole
        exact fun zero => whole (List.mem_append_left _ zero)
    refine ⟨front, written, below, ?_⟩
    rw [NamespaceConfig.entryPath, below]
    simp only [List.mem_append, List.mem_cons, not_or]
    exact ⟨front_whole, by decide, proper.noZero⟩

/-- The path of an entry designates the entry. -/
theorem designates_entryPath
    (short : (config.entryPath text).length < FileTree.maxPath) :
    m.Designates (config.entryPath text) dir (Text.octets text) := by
  obtain ⟨-, looked⟩ := lookup_ok found
  obtain ⟨front, written, path, whole⟩ := entryPath_parts proper found
  rw [path] at short
  obtain ⟨left, enough, same⟩ :=
    FileTree.lookup_entry written proper.noSlash short looked
  have led : m.lookup (config.entryPath text) =
      (m.files.walk left dir [Text.octets text]).mapError .os := by
    rw [lookup_whole whole, path, same]
  refine ⟨⟨left, enough, led⟩, fun node present itself => ?_⟩
  rw [led, FileTree.walk_entry left proper present itself]
  rfl

theorem lookup_entryPath_long
    (long : FileTree.maxPath ≤ (config.entryPath text).length) :
    m.lookup (config.entryPath text) = .error (.os .nameTooLong) := by
  obtain ⟨-, -, -, whole⟩ := entryPath_parts proper found
  rw [lookup_whole whole, FileTree.lookup_long long]
  rfl

end Entries

theorem readDirectory_eq
    (found : m.lookup config.runDir = .ok ⟨dir, .directory⟩) :
    m.readDirectory config.runDir = .ok (m.files.children dir) := by
  rw [readDirectory, found]
  rfl

/-- The listed names in their order. -/
theorem namespaces_ok
    (found : m.lookup config.runDir = .ok ⟨dir, .directory⟩) :
    ∃ listed, namespaces config m = .ok listed ∧
      listed.Perm ((m.files.children dir).map Text.decodeLossy) ∧
      listed.Pairwise fun a b => Text.octets a ≤ Text.octets b := by
  refine ⟨_, by rw [namespaces, readDirectory_eq found],
    List.mergeSort_perm _ _, ?_⟩
  have sorted := @List.pairwise_mergeSort _ (fun a b => decide (a ≤ b))
    (fun a b c before after => by
      simpa using String.le_trans (of_decide_eq_true before)
        (of_decide_eq_true after))
    (fun a b => by simpa using String.le_total a b)
    ((m.files.children dir).map Text.decodeLossy)
  exact sorted.imp fun ordered =>
    Text.octets_le_iff.mpr (of_decide_eq_true ordered)

/-- What is listed for the directory of named namespaces are its entries, and
a name that is listed for a text opens the entry that it is listed for. -/
theorem namespaces_open_as_listed {s : Session Machine}
    (config : NamespaceConfig) (sound : s.host.files.Sound) :
    (s.host.lookup config.runDir = .error (.os .noEntry) →
      namespaces config s.host = .ok []) ∧
    ∀ dir, s.host.lookup config.runDir = .ok ⟨dir, .directory⟩ →
      ∃ (names : List Octets) (listed : List String),
        namespaces config s.host = .ok listed ∧
        (names.Nodup ∧ ∀ name, name ∈ names ↔
          ∃ node, s.host.files.node? (dir.child name) = some node) ∧
        listed.Perm (names.map Text.decodeLossy) ∧
        (listed.Pairwise fun a b => Text.octets a ≤ Text.octets b) ∧
        ∀ text, Text.octets text ∈ names →
          Text.decodeLossy (Text.octets text) = text ∧
          ∃ path, config.namespacePath? text = some path ∧
            Path.components path =
              Path.components config.runDir ++
                [.normal (Text.octets text)] ∧
            (path.length < FileTree.maxPath →
              s.host.Designates path dir (Text.octets text)) ∧
            (FileTree.maxPath ≤ path.length →
              s.host.lookup path = .error (.os .nameTooLong)) ∧
            (namespaceExists config s.host text = true ↔
              ∃ handle t, outcome (openHandle config text) s =
                (.ok handle, t)) := by
  refine ⟨fun missing => ?_, fun dir found => ?_⟩
  · rw [namespaces, readDirectory, missing]
    rfl
  obtain ⟨listed, listing, perm, sorted⟩ := namespaces_ok found
  refine ⟨s.host.files.children dir, listed, listing,
    ⟨sound.nodup_children dir, fun name => FileTree.mem_children_iff⟩, perm,
    sorted, fun text among => ?_⟩
  obtain ⟨node, present⟩ := FileTree.mem_children_iff.mp among
  have proper := sound.isFileName present
  have entry := proper.isEntryName
  exact ⟨Text.decodeLossy_octets text, config.entryPath text,
    config.namespacePath?_entry entry, Path.components_join _ entry,
    designates_entryPath proper found, lookup_entryPath_long proper found,
    namespaceExists_iff_opens⟩

/-- A directory with a namespace, a plain file whose name is no text, and a
link to nothing. -/
def mixedDirectory : Machine :=
  .start (createFiles .fresh
    [(Text.octets "netns/é", .file (.namespace "é")),
      (Text.octets "netns/" ++ [0xff], .file .plain),
      (Text.octets "netns/gone", .link (Text.octets "nowhere"))]) .empty

theorem listed_mixedDirectory :
    let config :=
      { NamespaceConfig.preset with runDir := Text.octets "./netns/" }
    let s := Session.start mixedDirectory
    let dir := Location.working.child (Text.octets "netns")
    s.host.files.Sound ∧
    s.host.lookup config.runDir = .ok ⟨dir, .directory⟩ ∧
    ∃ (names : List Text.Octets) (listed : List String),
      namespaces config s.host = .ok listed ∧
      listed.Perm (names.map Text.decodeLossy) ∧ [0xff] ∈ names ∧
      Text.octets "é" ∈ names ∧
      s.host.Designates (Text.octets "./netns/é") dir (Text.octets "é") ∧
      Text.octets "gone" ∈ names ∧
      ¬ ∃ handle t, outcome (openHandle config "gone") s =
        (.ok handle, t) := by
  intro config s dir
  have sound : s.host.files.Sound :=
    sound_createFiles FileTree.sound_fresh _
  have found : s.host.lookup config.runDir = .ok ⟨dir, .directory⟩ :=
    eq_ok_of_toOption (by decide +kernel)
  obtain ⟨-, lists⟩ := namespaces_open_as_listed (s := s) config sound
  obtain ⟨names, listed, listing, ⟨-, entries⟩, perm, -, opens⟩ :=
    lists dir found
  have namespaced : Text.octets "é" ∈ names :=
    (entries _).mpr ⟨.file 0, by decide +kernel⟩
  have dangling : Text.octets "gone" ∈ names :=
    (entries _).mpr ⟨.link (Text.octets "nowhere"), by decide +kernel⟩
  obtain ⟨-, path, located, -, designates, -⟩ := opens "é" namespaced
  obtain rfl : path = Text.octets "./netns/é" := by
    have expected : config.namespacePath? "é" =
        some (Text.octets "./netns/é") := by decide +kernel
    exact Option.some.inj (located.symm.trans expected)
  obtain ⟨-, _, -, -, -, -, opening⟩ := opens "gone" dangling
  refine ⟨sound, found, names, listed, listing, perm,
    (entries _).mpr ⟨.file 1, by decide +kernel⟩, namespaced,
    designates (by decide +kernel), dangling, ?_⟩
  rw [← opening]
  decide +kernel

/-- The directory `netns` behind so many dots that there is hardly room for
more in a path. -/
def dottedDirectory : NamespaceConfig :=
  { NamespaceConfig.preset with
    runDir := Path.dotted 2042 (Text.octets "netns") }

/-- A namespace that is listed for its directory, but whose path is too long
to be looked up. -/
theorem listed_not_designated :
    let config := dottedDirectory
    let name := "wireguard-tunnel"
    let m := Machine.start (createFiles .fresh
      [(Text.octets "netns/wireguard-tunnel",
        .file (.namespace "wireguard-tunnel"))]) .empty
    let s := Session.start m
    let dir := Location.working.child (Text.octets "netns")
    m.files.Sound ∧
    m.lookup config.runDir = .ok ⟨dir, .directory⟩ ∧
    namespaces config m = .ok [name] ∧
    m.files.node? (dir.child (Text.octets name)) = some (.file 0) ∧
    m.files.contents = [.namespace name] ∧
    (∀ path, config.namespacePath? name = some path →
      ¬ m.Designates path dir (Text.octets name)) ∧
    namespaceExists config m name = false ∧
    ¬ ∃ handle t, outcome (openHandle config name) s = (.ok handle, t) := by
  intro config name m s dir
  have sound : m.files.Sound := sound_createFiles FileTree.sound_fresh _
  have whole : 0 ∉ config.runDir := by
    intro zero
    rcases Path.mem_dotted zero with first | second | later
    · cases first
    · cases second
    · exact absurd later (by decide +kernel)
  have length : config.runDir.length = 4089 := by
    rw [show config.runDir.length = _ from Path.length_dotted _ _]
    decide +kernel
  have short : config.runDir.length < FileTree.maxPath := by
    rw [length]
    decide
  have same : m.files.lookup config.runDir =
      m.files.lookup (Text.octets "netns") :=
    FileTree.lookup_dotted (by decide +kernel) (by decide +kernel) short
  have found : m.lookup config.runDir = .ok ⟨dir, .directory⟩ := by
    rw [lookup_whole whole, same]
    exact eq_ok_of_toOption (by decide +kernel)
  have present : m.files.node? (dir.child (Text.octets name)) =
      some (.file 0) := by decide +kernel
  have proper := sound.isFileName present
  have located := config.namespacePath?_entry proper.isEntryName
  have lost : m.lookup (config.entryPath name) =
      .error (.os .nameTooLong) := by
    have own : (Text.octets name).length = 16 := by decide +kernel
    have long := Path.le_length_join config.runDir (Text.octets name)
    rw [length, own] at long
    exact lookup_entryPath_long proper found (Nat.le_trans (by decide) long)
  have unknown : namespaceExists config m name = false := by
    rw [namespaceExists_located located, fileExists, lost]
    rfl
  refine ⟨sound, found, ?_, present, by decide +kernel, ?_, unknown, ?_⟩
  · have children : m.files.children dir = [Text.octets name] := by
      decide +kernel
    rw [namespaces, readDirectory_eq found]
    simp only [children, List.map_cons, List.map_nil,
      Text.decodeLossy_octets, List.mergeSort_singleton]
  · intro path same designates
    obtain rfl := Option.some.inj (located.symm.trans same)
    have led := designates.itself _ present (by simp)
    rw [lost] at led
    cases led
  · rw [← namespaceExists_iff_opens (s := s), show s.host = m from rfl, unknown]
    simp

end Machine

end InterfaceManager

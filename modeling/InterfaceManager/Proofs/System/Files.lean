import InterfaceManager.Proofs.Json.Readings
import InterfaceManager.Proofs.Path
import InterfaceManager.System.Machine

/-!
# Trees of files

Each location of a tree has one entry at most, and an entry has a name that
a directory can give it; whatever is created and deleted, this stays so.  A
lookup that has reached a directory goes on from there, whichever way led to
the directory, so that the path of an entry leads to the entry.
-/

namespace InterfaceManager

open Text (Octets)
open InterfaceManager.Path (slash dot dotDot)

theorem Location.child_inj {dir dir' : Location} {name name' : Octets} :
    dir.child name = dir'.child name' ↔ dir = dir' ∧ name = name' := by
  obtain ⟨base, names⟩ := dir
  obtain ⟨base', names'⟩ := dir'
  simp [child, and_assoc]

namespace FileTree

variable {t : FileTree} {l dir : Location} {name : Octets} {node : FileNode}

/-! ## Entries -/

/-- One entry at most for each location, and only names that a directory can
give to its entries. -/
structure Sound (t : FileTree) : Prop where
  distinct : (t.entries.map Prod.fst).Nodup
  named : ∀ entry ∈ t.entries, ∃ dir name,
    entry.1 = Location.child dir name ∧ IsFileName name

theorem node?_child :
    t.node? (dir.child name) =
      (t.entries.find? fun entry => entry.1 == dir.child name).map
        Prod.snd := by
  simp [node?, Location.child]

/-- An entry is listed in its directory, under its name there. -/
theorem listed_iff {l : Location} :
    (match l.names.getLast? with
      | some last => if l = dir.child last then some last else none
      | none => none) = some name ↔ l = dir.child name := by
  constructor
  · intro listed
    split at listed
    · split at listed
      · next here => exact Option.some.inj listed ▸ here
      · cases listed
    · cases listed
  · rintro rfl
    have last : (dir.child name).names.getLast? = some name := by
      simp [Location.child]
    simp [last]

/-- What is listed are the names in the directory that stand for something. -/
theorem mem_children_iff :
    name ∈ t.children dir ↔ ∃ node, t.node? (dir.child name) = some node := by
  rw [← Option.isSome_iff_exists, node?_child, Option.isSome_map,
    List.find?_isSome, children, List.mem_filterMap]
  refine exists_congr fun entry => and_congr_right fun _ => ?_
  exact listed_iff.trans beq_iff_eq.symm

/-- No name is listed twice. -/
theorem Sound.nodup_children (sound : t.Sound) (dir : Location) :
    (t.children dir).Nodup := by
  have apart : t.entries.Pairwise fun a b => a.1 ≠ b.1 :=
    List.pairwise_map.mp sound.distinct
  refine List.pairwise_filterMap.mpr ?_
  refine apart.imp fun {a b} differ name here name' there same => differ ?_
  rw [listed_iff.mp here, listed_iff.mp there, same]

/-- Whatever has an entry has a name that a directory can give. -/
theorem Sound.isFileName (sound : t.Sound)
    (present : t.node? (dir.child name) = some node) : IsFileName name := by
  rw [node?_child] at present
  obtain ⟨entry, found, -⟩ := Option.map_eq_some_iff.mp present
  have here : entry.1 = dir.child name := by
    simpa using List.find?_some found
  obtain ⟨dir', name', there, proper⟩ :=
    sound.named entry (List.mem_of_find?_eq_some found)
  exact (Location.child_inj.mp (here.symm.trans there)).2 ▸ proper

/-! ## Creating and deleting -/

theorem sound_fresh : fresh.Sound := by
  have proper : ∀ entry ∈ fresh.entries,
      entry.1 = Location.child ⟨entry.1.base, entry.1.names.dropLast⟩
        (entry.1.names.getLast?.getD []) ∧
      IsFileName (entry.1.names.getLast?.getD []) := by decide +kernel
  exact ⟨by decide +kernel, fun entry among => ⟨_, _, proper entry among⟩⟩

theorem Sound.remove (sound : t.Sound) (l : Location) :
    (t.remove l).Sound where
  distinct := sound.distinct.sublist (List.filter_sublist.map Prod.fst)
  named entry among := sound.named entry (List.mem_filter.mp among |>.1)

theorem Sound.put (sound : t.Sound) (node : FileNode)
    (proper : IsFileName name) : (t.put (dir.child name) node).Sound where
  distinct := by
    rw [FileTree.put, List.map_append, List.nodup_append]
    refine ⟨(sound.remove _).distinct, by simp, ?_⟩
    rintro l kept _ new rfl
    obtain ⟨entry, among, rfl⟩ := List.mem_map.mp kept
    have other := (List.mem_filter.mp among).2
    simp_all
  named entry among := by
    rcases List.mem_append.mp among with old | new
    · exact sound.named entry (List.mem_filter.mp old |>.1)
    · obtain rfl := List.mem_singleton.mp new
      exact ⟨dir, name, rfl, proper⟩

theorem Sound.write (sound : t.Sound) (contents : FileContents)
    (proper : IsFileName name) :
    (t.write (dir.child name) contents).Sound := by
  rw [FileTree.write]
  split
  · exact ⟨sound.distinct, sound.named⟩
  · have put : (t.put (dir.child name) (.file t.contents.length)).Sound :=
      sound.put _ proper
    exact ⟨put.distinct, put.named⟩

/-- A place for a new entry is in a directory and has a proper name there. -/
theorem place_ok {start : Location} {names : List Octets}
    (placed : t.place start names = .ok l) :
    ∃ dir name, l = Location.child dir name ∧ IsFileName name := by
  rw [place] at placed
  split at placed
  · cases placed
  · next last _ =>
    obtain ⟨above, -, placed⟩ := Json.bind_ok placed
    split at placed
    · cases placed
    split at placed
    · next proper =>
      cases placed
      exact ⟨above.location, last, rfl, proper⟩
    · cases placed

theorem destination_ok {links : Nat} {start : Location}
    {names : List Octets} (found : t.destination links start names = .ok l) :
    ∃ dir name, l = Location.child dir name ∧ IsFileName name := by
  induction links generalizing start names with
  | zero => cases found
  | succ links ih =>
    obtain ⟨here, placed, found⟩ := Json.bind_ok found
    split at found
    · exact ih found
    · cases found
      exact place_ok placed

theorem Sound.makeDirectories (sound : t.Sound) (start : Location)
    (names : List Octets) : (t.makeDirectories start names).Sound := by
  refine List.foldlRecOn _ _ sound fun t sound n _ => ?_
  split
  · next placed =>
    obtain ⟨dir, name, rfl, proper⟩ := place_ok placed
    exact sound.put .directory proper
  · exact sound

theorem Sound.create (sound : t.Sound) (path : Octets) (file : NewFile) :
    (t.create path file).Sound := by
  have above := sound.makeDirectories .working (properNames path).dropLast
  cases file with
  | directory => exact above.makeDirectories _ _
  | link target =>
    simp only [FileTree.create]
    split
    · next placed =>
      obtain ⟨dir, name, rfl, proper⟩ := place_ok placed
      exact above.put _ proper
    · exact above
  | file contents =>
    simp only [FileTree.create]
    split
    · next found =>
      obtain ⟨dir, name, rfl, proper⟩ := destination_ok found
      exact above.write _ proper
    · exact above

/-! ## Lookups -/

section Walking

variable {follow : Location → List Octets → Except Errno Found} {links : Nat}

/-- A descent that reaches a directory goes on from there with whatever names
follow, unless it has met a link, after which the walk goes on so. -/
theorem descend_onward (links : Nat)
    (onward : ∀ {l names}, follow l names = .ok ⟨dir, .directory⟩ →
      ∃ left ≤ links, ∀ rest,
        follow l (names ++ rest) = t.walk left dir rest)
    {names : List Octets} {l : Location}
    (reached : t.descend follow l names = .ok ⟨dir, .directory⟩) :
    (∀ rest, t.descend follow l (names ++ rest) =
      t.descend follow dir rest) ∨
    ∃ left ≤ links, ∀ rest,
      t.descend follow l (names ++ rest) = t.walk left dir rest := by
  induction names generalizing l with
  | nil =>
    cases reached
    exact Or.inl fun rest => rfl
  | cons name names ih =>
    simp only [descend, List.cons_append] at reached ⊢
    by_cases needless : name = [] ∨ name = dot
    · simp only [if_pos needless] at reached ⊢
      exact ih reached
    simp only [if_neg needless] at reached ⊢
    by_cases up : name = dotDot
    · simp only [if_pos up] at reached ⊢
      exact ih reached
    simp only [if_neg up] at reached ⊢
    by_cases long : maxName < name.length
    · simp only [if_pos long] at reached
      cases reached
    simp only [if_neg long] at reached ⊢
    rcases found : t.node? (l.child name) with
      _ | (_ | number | _ | target) <;> rw [found] at reached <;>
      dsimp only at reached ⊢
    · cases reached
    · exact ih reached
    · split at reached <;> cases reached
    · split at reached <;> cases reached
    · obtain ⟨left, enough, same⟩ := onward reached
      exact Or.inr ⟨left, enough, fun rest => by
        rw [← List.append_assoc, same rest]⟩

/-- Once a walk has reached a directory, the names that follow are looked up
from there, with the links that are left. -/
theorem walk_onward {names : List Octets} {l : Location}
    (reached : t.walk links l names = .ok ⟨dir, .directory⟩) :
    ∃ left ≤ links, ∀ rest,
      t.walk links l (names ++ rest) = t.walk left dir rest := by
  induction links generalizing l names with
  | zero =>
    rcases descend_onward 0 (fun halted => by cases halted) reached with same | same
    · exact ⟨0, Nat.le_refl 0, same⟩
    · exact same
  | succ links ih =>
    rcases descend_onward links (fun reached => ih reached) reached with
      same | ⟨left, enough, same⟩
    · exact ⟨links + 1, Nat.le_refl _, same⟩
    · exact ⟨left, Nat.le_succ_of_le enough, same⟩

theorem descend_doubled
    (doubled : ∀ l names, ∀ rest ≠ [],
      follow l (names ++ [] :: rest) = follow l (names ++ rest))
    (l : Location) (names : List Octets) {rest : List Octets}
    (more : rest ≠ []) :
    t.descend follow l (names ++ [] :: rest) =
      t.descend follow l (names ++ rest) := by
  induction names generalizing l with
  | nil => simp [descend]
  | cons name names ih =>
    simp only [descend, List.cons_append, ih]
    split
    · rfl
    split
    · rfl
    split
    · rfl
    split
    · rfl
    · rfl
    · rw [← List.append_assoc, doubled _ _ rest more, List.append_assoc]
    · simp [more]

/-- Two slashes in a row are as good as one. -/
theorem walk_doubled (links : Nat) (l : Location) (names : List Octets)
    {rest : List Octets} (more : rest ≠ []) :
    t.walk links l (names ++ [] :: rest) =
      t.walk links l (names ++ rest) := by
  induction links generalizing l names rest with
  | zero => exact descend_doubled (fun _ _ _ _ => rfl) l names more
  | succ links ih =>
    exact descend_doubled (fun l names _ more => ih l names more) l names more

/-- Dots in front of a path lead nowhere else. -/
theorem walk_dots (links count : Nat) (l : Location) (names : List Octets) :
    t.walk links l (List.replicate count dot ++ names) =
      t.walk links l names := by
  induction count with
  | zero => rfl
  | succ count ih =>
    rw [← ih, List.replicate_succ, List.cons_append]
    cases links <;> exact if_pos (Or.inr rfl)

/-- A name that is no link stands for itself. -/
theorem walk_entry (links : Nat) (proper : IsFileName name)
    (present : t.node? (dir.child name) = some node)
    (itself : ∀ target, node ≠ .link target) :
    t.walk links dir [name] = .ok ⟨dir.child name, node⟩ := by
  have needed : ¬ (name = [] ∨ name = dot) := by
    simp [proper.nonempty, proper.notDot]
  have short : ¬ maxName < name.length := Nat.not_lt_of_le proper.short
  cases links <;> cases node <;>
    simp_all [walk, descend, proper.notDotDot]

end Walking

/-- The path of an entry leads to the directory and then to the name there. -/
theorem lookup_entry {path front : Octets}
    (written : path = front ∧ front ≠ [] ∨ path = front ++ [slash])
    (cut : slash ∉ name) (short : (front ++ slash :: name).length < maxPath)
    (reached : t.lookup path = .ok ⟨dir, .directory⟩) :
    ∃ left ≤ maxLinks,
      t.lookup (front ++ slash :: name) = t.walk left dir [name] := by
  have somewhere : path ≠ [] := by
    rcases written with ⟨rfl, nonempty⟩ | rfl <;> simp_all
  have begins : path.head? = (front ++ slash :: name).head? := by
    rcases written with ⟨rfl, nonempty⟩ | rfl
    · cases path with
      | nil => exact absurd rfl nonempty
      | cons b bs => rfl
    · cases front <;> rfl
  have looked : t.lookup (front ++ slash :: name) =
      t.walk maxLinks (if path.head? = some slash then .root else .working)
        (Text.pieces slash front ++ [name]) := by
    rw [begins, lookup, if_neg (by simp), if_neg (Nat.not_le_of_lt short)]
    simp only [Text.pieces_separated, Text.pieces_of_not_mem cut]
  rw [lookup, if_neg somewhere] at reached
  split at reached
  · cases reached
  dsimp only at reached
  obtain ⟨left, enough, onward⟩ := walk_onward reached
  refine ⟨left, enough, ?_⟩
  rw [looked, ← onward]
  rcases written with ⟨rfl, -⟩ | rfl
  · rfl
  · rw [Text.pieces_separated, List.append_assoc]
    exact (walk_doubled _ _ _ (by simp)).symm

theorem lookup_dotted {count : Nat} {path : Octets} (somewhere : path ≠ [])
    (relative : path.head? ≠ some slash)
    (short : (Path.dotted count path).length < maxPath) :
    t.lookup (Path.dotted count path) = t.lookup path := by
  have length := Path.length_dotted count path
  have full := List.length_pos_iff.mpr somewhere
  have nonempty : Path.dotted count path ≠ [] :=
    List.length_pos_iff.mp (by omega)
  have first : (Path.dotted count path).head? ≠ some slash := by
    rcases Path.head?_dotted count path with same | dot
    · exact same ▸ relative
    · rw [dot]
      decide
  rw [lookup, if_neg nonempty, if_neg (by omega), if_neg first, lookup,
    if_neg somewhere, if_neg (by omega), if_neg relative, Path.pieces_dotted,
    walk_dots]

theorem lookup_long {path : Octets} (long : maxPath ≤ path.length) :
    t.lookup path = .error .nameTooLong := by
  have somewhere : path ≠ [] := by
    rintro rfl
    exact absurd long (by decide)
  rw [lookup, if_neg somewhere, if_pos long]

end FileTree

namespace Machine

/-- What a computed answer is can be read off its value. -/
theorem eq_ok_of_toOption {answer : Except ε α} {a : α}
    (value : answer.toOption = some a) : answer = .ok a := by
  cases answer with
  | error e => cases value
  | ok b => exact congrArg Except.ok (Option.some.inj value)

theorem sound_createFiles {t : FileTree} (sound : t.Sound)
    (files : List (Octets × NewFile)) : (createFiles t files).Sound :=
  List.foldlRecOn _ _ sound fun _ sound file _ => sound.create file.1 file.2

end Machine

end InterfaceManager

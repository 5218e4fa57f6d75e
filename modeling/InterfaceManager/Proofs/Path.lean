import InterfaceManager.Path

/-!
# Entries of directories

A path is cut at its slashes wherever they are, so that a path that is
continued behind a slash has the components of its first part and then those
of the continuation.  An entry of a directory therefore has the components of
the directory and one more, which is its name, however the directory is
written.
-/

namespace InterfaceManager

namespace Text

variable {α : Type} [DecidableEq α]

/-- A separator between two texts separates their pieces. -/
theorem pieces_separated (sep : α) (front back : List α) :
    pieces sep (front ++ sep :: back) =
      pieces sep front ++ pieces sep back := by
  induction front with
  | nil => simp [pieces]
  | cons c front ih =>
    rw [List.cons_append, pieces, pieces, ih]
    split
    · rfl
    · rcases cut : pieces sep front with _ | ⟨p, ps⟩
      · exact absurd cut (pieces_ne_nil sep front)
      · rfl

theorem head?_pieces_separated (sep : α) (front back : List α) :
    (pieces sep (front ++ sep :: back)).head? =
      (pieces sep front).head? := by
  rw [pieces_separated]
  rcases cut : pieces sep front with _ | ⟨p, ps⟩
  · exact absurd cut (pieces_ne_nil sep front)
  · rfl

end Text

namespace Path

open Text (Octets)

/-- What an entry of a directory can be called in a path. -/
structure IsEntryName (name : Octets) : Prop where
  nonempty : name ≠ []
  notDot : name ≠ dot
  notDotDot : name ≠ dotDot
  noSlash : slash ∉ name

theorem dot_ne_nil : dot ≠ [] := by decide +kernel

theorem isEntryName_iff {name : Octets} :
    IsEntryName name ↔
      ¬ (name = [] ∨ name = dot ∨ name = dotDot ∨ slash ∈ name) := by
  simp only [not_or]
  exact ⟨fun ⟨nonempty, notDot, notDotDot, noSlash⟩ =>
      ⟨nonempty, notDot, notDotDot, noSlash⟩,
    fun ⟨nonempty, notDot, notDotDot, noSlash⟩ =>
      ⟨nonempty, notDot, notDotDot, noSlash⟩⟩

theorem IsEntryName.relative {name : Octets} (entry : IsEntryName name) :
    isAbsolute name = false := by
  cases name with
  | nil => rfl
  | cons c cs =>
    have other := entry.noSlash
    simp only [List.mem_cons, not_or] at other
    simp [isAbsolute, Ne.symm other.1]

theorem IsEntryName.component?_eq {name : Octets}
    (entry : IsEntryName name) : component? name = some (.normal name) := by
  simp [component?, entry.nonempty, entry.notDot, entry.notDotDot]

/-- The parts of a path behind a slash are further components. -/
theorem components_continued (front back : Octets) :
    components (front ++ slash :: back) =
      components (front ++ [slash]) ++
        (Text.pieces slash back).filterMap component? := by
  have start : isAbsolute (front ++ slash :: back) =
      isAbsolute (front ++ [slash]) := by
    cases front <;> rfl
  have nothing : (Text.pieces slash []).filterMap component? = [] := rfl
  rw [components, components, start, Text.head?_pieces_separated,
    Text.head?_pieces_separated, Text.pieces_separated,
    Text.pieces_separated, List.filterMap_append, List.filterMap_append,
    nothing, List.append_nil, List.append_assoc]

/-- A slash at the end does not matter, except to the empty path. -/
theorem components_slash {path : Octets} (nonempty : path ≠ []) :
    components (path ++ [slash]) = components path := by
  have start : isAbsolute (path ++ [slash]) = isAbsolute path := by
    cases path with
    | nil => exact absurd rfl nonempty
    | cons c cs => rfl
  have nothing : (Text.pieces slash []).filterMap component? = [] := rfl
  rw [components, components, start, Text.head?_pieces_separated,
    Text.pieces_separated, List.filterMap_append, nothing, List.append_nil]

/-- However a directory is written, there is just one slash before the name
of an entry; nothing stands before it only in the empty directory. -/
theorem join_cases (dir name : Octets) :
    dir = [] ∧ join dir name = name ∨
      ∃ front, (dir = front ∧ front ≠ [] ∨ dir = front ++ [slash]) ∧
        join dir name = front ++ slash :: name := by
  by_cases empty : dir = []
  · exact Or.inl ⟨empty, by simp [join, empty]⟩
  · refine Or.inr ?_
    by_cases closed : dir.getLast? = some slash
    · obtain ⟨front, rfl⟩ := List.getLast?_eq_some_iff.mp closed
      exact ⟨front, Or.inr rfl, by simp [join]⟩
    · exact ⟨dir, Or.inl ⟨rfl, empty⟩, by simp [join, empty, closed]⟩

theorem le_length_join (dir name : Octets) :
    dir.length + name.length ≤ (join dir name).length := by
  rw [join]
  split <;> simp

/-- An entry has the components of its directory and its name. -/
theorem components_join (dir : Octets) {name : Octets}
    (entry : IsEntryName name) :
    components (join dir name) = components dir ++ [.normal name] := by
  have single : (Text.pieces slash name).filterMap component? =
      [.normal name] := by
    rw [Text.pieces_of_not_mem entry.noSlash]
    simp [entry.component?_eq]
  rcases join_cases dir name with
    ⟨rfl, here⟩ | ⟨front, ⟨rfl, nonempty⟩ | rfl, below⟩
  · have first : (Text.pieces slash name).head? ≠ some dot := by
      rw [Text.pieces_of_not_mem entry.noSlash]
      simpa using entry.notDot
    rw [here, components, single, entry.relative]
    simp [first, components, isAbsolute, Text.pieces, component?,
      Ne.symm dot_ne_nil]
  · rw [below, components_continued, components_slash nonempty, single]
  · rw [below, components_continued, single]

/-- The components of the directory that a path is in.  The root and the empty
path are in none. -/
def parent? (path : List Component) : Option (List Component) :=
  match path.getLast? with
  | none | some .root => none
  | some _ => some path.dropLast

/-- The directory of an entry is the one that it was joined to. -/
theorem parent?_join (dir : Octets) {name : Octets}
    (entry : IsEntryName name) :
    parent? (components (join dir name)) = some (components dir) := by
  simp [parent?, components_join dir entry]

/-- Entries of a directory with different names have different paths. -/
theorem components_join_inj {dir name name' : Octets}
    (entry : IsEntryName name) (entry' : IsEntryName name')
    (same : components (join dir name) = components (join dir name')) :
    name = name' := by
  rw [components_join dir entry, components_join dir entry'] at same
  simpa using List.append_cancel_left same

/-- A path behind a number of dots, each of which stands for the directory
that it is in. -/
def dotted : Nat → Octets → Octets
  | 0, path => path
  | count + 1, path => dot ++ slash :: dotted count path

theorem dot_eq : dot = [46] := by decide +kernel

theorem pieces_dotted (count : Nat) (path : Octets) :
    Text.pieces slash (dotted count path) =
      List.replicate count dot ++ Text.pieces slash path := by
  induction count with
  | zero => rfl
  | succ count ih =>
    have cut : slash ∉ dot := by
      rw [dot_eq]
      decide
    rw [dotted, Text.pieces_append cut, ih, List.replicate_succ,
      List.cons_append]

theorem head?_dotted (count : Nat) (path : Octets) :
    (dotted count path).head? = path.head? ∨
      (dotted count path).head? = some 46 := by
  cases count with
  | zero => exact Or.inl rfl
  | succ count =>
    rw [dotted, dot_eq]
    exact Or.inr rfl

theorem length_dotted (count : Nat) (path : Octets) :
    (dotted count path).length = 2 * count + path.length := by
  induction count with
  | zero => simp [dotted]
  | succ count ih =>
    rw [dotted, dot_eq]
    simp only [List.length_append, List.length_cons, List.length_nil, ih]
    omega

theorem mem_dotted {count : Nat} {path : Octets} {b : UInt8}
    (among : b ∈ dotted count path) : b = 46 ∨ b = slash ∨ b ∈ path := by
  induction count with
  | zero => exact Or.inr (Or.inr among)
  | succ count ih =>
    rw [dotted, dot_eq, List.mem_append, List.mem_singleton,
      List.mem_cons] at among
    rcases among with first | second | later
    · exact Or.inl first
    · exact Or.inr (Or.inl second)
    · exact ih later

end Path

end InterfaceManager

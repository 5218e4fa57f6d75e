/-!
# Cutting texts at separators

A text, of characters or of octets, is cut at every occurrence of a
separator into pieces, or at the first occurrence only.  Joining the pieces
with the separator gives the text back, and pieces that hold no separator
survive a join and a cut.
-/

namespace InterfaceManager.Text

variable {α : Type} [DecidableEq α]

/-- The pieces of a text between the occurrences of `sep`.  A text without
the separator is its own only piece. -/
def pieces (sep : α) : List α → List (List α)
  | [] => [[]]
  | c :: cs =>
    if c = sep then
      [] :: pieces sep cs
    else
      match pieces sep cs with
      | [] => [[c]]
      | p :: ps => (c :: p) :: ps

/-- The pieces written one after another with `sep` between them. -/
def joined (sep : α) : List (List α) → List α
  | [] => []
  | [p] => p
  | p :: q :: ps => p ++ sep :: joined sep (q :: ps)

/-- The text before and the text after the first occurrence of `sep`. -/
def cutFirst? (sep : α) : List α → Option (List α × List α)
  | [] => none
  | c :: cs =>
    if c = sep then some ([], cs)
    else (cutFirst? sep cs).map fun (front, back) => (c :: front, back)

/-- The text before and the text after the first two adjacent occurrences
of `sep`. -/
def cutDoubled? (sep : α) : List α → Option (List α × List α)
  | c :: d :: cs =>
    if c = sep ∧ d = sep then some ([], cs)
    else (cutDoubled? sep (d :: cs)).map fun (front, back) =>
      (c :: front, back)
  | _ => none

theorem pieces_ne_nil (sep : α) (cs : List α) : pieces sep cs ≠ [] := by
  cases cs with
  | nil => simp [pieces]
  | cons c cs =>
    simp only [pieces]
    split
    · simp
    · split <;> simp

/-- Joining the pieces of a text gives the text. -/
theorem joined_pieces (sep : α) (cs : List α) :
    joined sep (pieces sep cs) = cs := by
  induction cs with
  | nil => rfl
  | cons c cs ih =>
    simp only [pieces]
    split
    · next h =>
      subst h
      cases hp : pieces c cs with
      | nil => exact absurd hp (pieces_ne_nil c cs)
      | cons p ps => rw [hp] at ih; simp [joined, ih]
    · cases hp : pieces sep cs with
      | nil => exact absurd hp (pieces_ne_nil sep cs)
      | cons p ps =>
        rw [hp] at ih
        cases ps <;> simp_all [joined]

/-- A text without the separator is a single piece. -/
theorem pieces_of_not_mem {sep : α} {cs : List α} (h : sep ∉ cs) :
    pieces sep cs = [cs] := by
  induction cs with
  | nil => rfl
  | cons c cs ih =>
    simp only [List.mem_cons, not_or] at h
    simp [pieces, Ne.symm h.1, ih h.2]

/-- A piece without the separator, written before a separator, is the first
piece of the whole text. -/
theorem pieces_append {sep : α} {p : List α} (h : sep ∉ p)
    (cs : List α) :
    pieces sep (p ++ sep :: cs) = p :: pieces sep cs := by
  induction p with
  | nil => simp [pieces]
  | cons c p ih =>
    simp only [List.mem_cons, not_or] at h
    simp [pieces, Ne.symm h.1, ih h.2]

/-- Cutting undoes joining when no piece holds the separator. -/
theorem pieces_joined {sep : α} {ps : List (List α)} (hne : ps ≠ [])
    (h : ∀ p ∈ ps, sep ∉ p) : pieces sep (joined sep ps) = ps := by
  induction ps with
  | nil => exact absurd rfl hne
  | cons p ps ih =>
    cases ps with
    | nil => exact pieces_of_not_mem (h p (by simp))
    | cons q ps =>
      rw [joined, pieces_append (h p (by simp)),
        ih (by simp) (fun r hr => h r (List.mem_cons_of_mem _ hr))]

/-- The first cut of a text whose front holds no separator. -/
theorem cutFirst?_append {sep : α} {front : List α} (h : sep ∉ front)
    (back : List α) :
    cutFirst? sep (front ++ sep :: back) = some (front, back) := by
  induction front with
  | nil => simp [cutFirst?]
  | cons c front ih =>
    simp only [List.mem_cons, not_or] at h
    simp [cutFirst?, Ne.symm h.1, ih h.2]

/-- There is no cut exactly when the separator does not occur. -/
theorem cutFirst?_eq_none_iff {sep : α} {cs : List α} :
    cutFirst? sep cs = none ↔ sep ∉ cs := by
  induction cs with
  | nil => simp [cutFirst?]
  | cons c cs ih =>
    by_cases h : c = sep
    · simp [cutFirst?, h]
    · simp [cutFirst?, h, ih, Ne.symm h]

/-- A cut is made at the first occurrence of the separator. -/
theorem cutFirst?_eq_some_iff {sep : α} {cs front back : List α} :
    cutFirst? sep cs = some (front, back) ↔
      cs = front ++ sep :: back ∧ sep ∉ front := by
  constructor
  · intro cut
    induction cs generalizing front with
    | nil => cases cut
    | cons c cs ih =>
      rw [cutFirst?] at cut
      split at cut
      · next same =>
        cases cut
        simp [same]
      · next other =>
        obtain ⟨⟨front, _⟩, later, parts⟩ := Option.map_eq_some_iff.mp cut
        cases parts
        obtain ⟨rest, free⟩ := ih later
        simp [rest, free, Ne.symm other]
  · rintro ⟨rfl, free⟩
    exact cutFirst?_append free back

/-- A cut at two adjacent separators takes just these away. -/
theorem eq_of_cutDoubled? {sep : α} {cs front back : List α}
    (cut : cutDoubled? sep cs = some (front, back)) :
    cs = front ++ sep :: sep :: back := by
  induction cs generalizing front with
  | nil => cases cut
  | cons c cs ih =>
    cases cs with
    | nil => cases cut
    | cons d cs =>
      rw [cutDoubled?] at cut
      split at cut
      · next same =>
        cases cut
        simp [same]
      · obtain ⟨⟨front, _⟩, later, parts⟩ := Option.map_eq_some_iff.mp cut
        cases parts
        simp [ih later]

omit [DecidableEq α] in
/-- What is in a join is a separator or in one of the pieces. -/
theorem eq_or_mem_of_mem_joined {sep c : α} {ps : List (List α)}
    (h : c ∈ joined sep ps) : c = sep ∨ ∃ p ∈ ps, c ∈ p := by
  induction ps with
  | nil => cases h
  | cons p ps ih =>
    cases ps with
    | nil => exact Or.inr ⟨p, by simp, h⟩
    | cons q ps =>
      rcases List.mem_append.mp h with front | back
      · exact Or.inr ⟨p, by simp, front⟩
      · rcases List.mem_cons.mp back with same | later
        · exact Or.inl same
        · obtain same | ⟨r, among, inside⟩ := ih later
          · exact Or.inl same
          · exact Or.inr ⟨r, List.mem_cons_of_mem _ among, inside⟩

/-- No two separators are adjacent in or right after a text without any. -/
theorem cutDoubled?_append {sep : α} {p : List α} (h : sep ∉ p)
    (cs : List α) :
    cutDoubled? sep (p ++ cs) =
      (cutDoubled? sep cs).map fun (front, back) => (p ++ front, back) := by
  induction p with
  | nil => simp
  | cons c p ih =>
    simp only [List.mem_cons, not_or] at h
    rcases rest : p ++ cs with _ | ⟨d, ds⟩
    · obtain ⟨rfl, rfl⟩ := List.append_eq_nil_iff.mp rest
      simp [cutDoubled?]
    · rw [List.cons_append, rest, cutDoubled?, if_neg (by simp [Ne.symm h.1]),
        ← rest, ih h.2, Option.map_map]
      rfl

/-- Two separators are adjacent nowhere in the join of pieces that are not
empty and hold no separator. -/
theorem cutDoubled?_joined {sep : α} {ps : List (List α)}
    (h : ∀ p ∈ ps, p ≠ [] ∧ sep ∉ p) (cs : List α) :
    cutDoubled? sep (joined sep ps ++ cs) =
      (cutDoubled? sep cs).map fun (front, back) =>
        (joined sep ps ++ front, back) := by
  induction ps with
  | nil => simp [joined]
  | cons p ps ih =>
    have free := (h p List.mem_cons_self).2
    cases ps with
    | nil => exact cutDoubled?_append free cs
    | cons q ps =>
      have later := ih fun r hr => h r (List.mem_cons_of_mem _ hr)
      obtain ⟨occupied, other⟩ := h q (by simp)
      rcases start : joined sep (q :: ps) ++ cs with _ | ⟨d, ds⟩
      · cases ps <;> simp [joined, occupied] at start
      · have next : d ≠ sep := by
          rintro rfl
          apply other
          cases q with
          | nil => exact absurd rfl occupied
          | cons c q => cases ps <;> simp_all [joined]
        rw [joined, List.append_assoc, List.cons_append, start,
          cutDoubled?_append free, cutDoubled?, if_neg (by simp [next]),
          ← start, later]
        simp [Option.map_map, Function.comp_def]

end InterfaceManager.Text

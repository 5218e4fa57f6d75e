import InterfaceManager.Json.Reader
import InterfaceManager.Json.Writer
import InterfaceManager.Proofs.Text.Digits
import Mathlib.Tactic.IntervalCases

/-!
# JSON values survive their texts

Reading the text of a value on one line gives the value back, with the members
of its objects sorted by key.  Numbers with a fraction or an exponent are left
out.
-/

namespace InterfaceManager.Json

open Text

/-- A character is written as it is, or as a backslash and what stands for it
after a backslash. -/
theorem escapedChar_cases (c : Char) (rest : List Char) :
    (c ≠ '"' ∧ c ≠ '\\' ∧ escapedChar c = [c]) ∨
      ∃ cs, escapedChar c = '\\' :: cs ∧
        readEscape? (cs ++ rest) = some (c, rest) := by
  have control : ∀ n < 0x20, ∃ cs, escapedChar (Char.ofNat n) = '\\' :: cs ∧
      readEscape? (cs ++ rest) = some (Char.ofNat n, rest) := by
    intro n small
    interval_cases n <;> exact ⟨_, rfl, rfl⟩
  by_cases small : c.toNat < 0x20
  · have found := control c.toNat small
    rw [Char.ofNat_toNat] at found
    exact Or.inr found
  · by_cases quote : c = '"'
    · subst quote
      exact Or.inr ⟨_, rfl, rfl⟩
    by_cases slash : c = '\\'
    · subst slash
      exact Or.inr ⟨_, rfl, rfl⟩
    · refine Or.inl ⟨quote, slash, ?_⟩
      rw [escapedChar, if_neg small]
      · exact quote
      · exact slash
      all_goals
        rintro rfl
        exact small (by decide)

theorem readCharacters_escapedChar (c : Char) (fuel : Nat)
    (rest : List Char) :
    readCharacters (fuel + 1) (escapedChar c ++ rest) =
      (readCharacters fuel rest).map fun (text, rest) =>
        (c :: text, rest) := by
  rcases escapedChar_cases c rest with ⟨quote, slash, plain⟩ |
    ⟨cs, escaped, reads⟩
  · rw [plain, List.singleton_append, readCharacters]
    · rcases readCharacters fuel rest with _ | ⟨text, rest⟩ <;> rfl
    · exact quote
    · exact slash
  · rw [escaped, List.cons_append, readCharacters]
    simp only [reads, Option.bind_eq_bind, Option.bind_some]
    rcases readCharacters fuel rest with _ | ⟨text, rest⟩ <;> rfl

/-- A quoted text is read up to its closing quote. -/
theorem readCharacters_flatMap (cs : List Char) (fuel : Nat)
    (enough : cs.length ≤ fuel) (rest : List Char) :
    readCharacters fuel (cs.flatMap escapedChar ++ '"' :: rest) =
      some (cs, rest) := by
  induction cs generalizing fuel with
  | nil => cases fuel <;> rfl
  | cons c cs ih =>
    obtain ⟨fuel, rfl⟩ : ∃ n, fuel = n + 1 :=
      ⟨fuel - 1, by simp at enough; omega⟩
    have later := ih fuel (by simpa using enough)
    rw [List.flatMap_cons, List.append_assoc, readCharacters_escapedChar,
      later]
    rfl

/-- A quoted text is no shorter than the text. -/
theorem length_le_flatMap_escapedChar (cs : List Char) :
    cs.length ≤ (cs.flatMap escapedChar).length := by
  induction cs with
  | nil => exact Nat.le_refl _
  | cons c cs ih =>
    rw [List.flatMap_cons, List.length_append, List.length_cons]
    rcases escapedChar_cases c [] with ⟨-, -, plain⟩ | ⟨ds, escaped, -⟩
    · rw [plain, List.length_singleton]
      omega
    · rw [escaped, List.length_cons]
      omega

/-! ## Integers -/

/-- The rest of a text, after a value: nothing, or what goes on with a comma or
a closing bracket. -/
def Ended (rest : List Char) : Prop :=
  rest = [] ∨
    ∃ cs, rest = ',' :: cs ∨ rest = ']' :: cs ∨ rest = '\x7d' :: cs

theorem isDigit_of_mem_toDigits {n : Nat} {c : Char}
    (among : c ∈ Nat.toDigits 10 n) : '0' ≤ c ∧ c ≤ '9' := by
  have digit := Nat.isDigit_of_mem_toDigits (by omega) (by omega) among
  simpa [Char.isDigit, Char.le_def] using digit

/-- The digits of a number are taken off the text, and nothing else. -/
theorem span_toDigits (n : Nat) {rest : List Char} (ended : Ended rest) :
    (Nat.toDigits 10 n ++ rest).takeWhile
        (fun c => decide ('0' ≤ c ∧ c ≤ '9')) = Nat.toDigits 10 n ∧
      (Nat.toDigits 10 n ++ rest).dropWhile
        (fun c => decide ('0' ≤ c ∧ c ≤ '9')) = rest := by
  have digits : ∀ c ∈ Nat.toDigits 10 n, decide ('0' ≤ c ∧ c ≤ '9') = true :=
    fun c among => decide_eq_true (isDigit_of_mem_toDigits among)
  rw [List.takeWhile_append_of_pos digits, List.dropWhile_append_of_pos digits]
  obtain rfl | ⟨cs, rfl | rfl | rfl⟩ := ended <;> simp

theorem readNumber?_toDigits (n : Nat) {rest : List Char}
    (ended : Ended rest) :
    readNumber? (Nat.toDigits 10 n ++ rest) =
      some (numberOf false n [] none, rest) := by
  obtain ⟨taken, left⟩ := span_toDigits n ended
  have unsigned : ∀ cs, Nat.toDigits 10 n ++ rest = '-' :: cs → False := by
    intro cs same
    rcases digits : Nat.toDigits 10 n with _ | ⟨c, ds⟩
    · exact Nat.toDigits_ne_nil digits
    · rw [digits] at same
      cases same
      have digit := isDigit_of_mem_toDigits (c := '-') (n := n)
        (by simp [digits])
      exact absurd digit (by decide)
  have whole : natOfDigits? 10 (Nat.toDigits 10 n) = some n :=
    natOfDigits?_toDigits (by omega) (by omega) n
  rw [readNumber?]
  · simp only [taken, left, whole, Option.bind_eq_bind, Option.bind_some]
    obtain rfl | ⟨cs, rfl | rfl | rfl⟩ := ended <;> rfl
  · exact unsigned

theorem readNumber?_negative (n : Nat) {rest : List Char}
    (ended : Ended rest) :
    readNumber? ('-' :: (Nat.toDigits 10 n ++ rest)) =
      some (numberOf true n [] none, rest) := by
  obtain ⟨taken, left⟩ := span_toDigits n ended
  have whole : natOfDigits? 10 (Nat.toDigits 10 n) = some n :=
    natOfDigits?_toDigits (by omega) (by omega) n
  simp only [readNumber?, taken, left, whole, Option.bind_eq_bind,
    Option.bind_some]
  obtain rfl | ⟨cs, rfl | rfl | rfl⟩ := ended <;> rfl

/-- Whether a number is an integer that 64 bits hold. -/
def Number.Whole : Number → Prop
  | .natural _ => True
  | .negative n => Int64.minValue.toInt ≤ n ∧ n < 0
  | .fractional _ => False

/-- The text of an integer is read as that integer. -/
theorem readNumber?_render {n : Number} (whole : n.Whole)
    {rest : List Char} (ended : Ended rest) :
    readNumber? (n.render.toList ++ rest) = some (n, rest) := by
  cases n with
  | natural n =>
    have bounded : n.toNat < UInt64.size := n.toNat_lt
    rw [Number.render, Nat.toString_eq_repr, Nat.toList_repr,
      readNumber?_toDigits n.toNat ended]
    simp [numberOf, bounded]
  | negative n =>
    obtain ⟨bounded, negative⟩ := whole
    obtain ⟨k, rfl⟩ := Int.eq_negSucc_of_lt_zero negative
    have text : (toString (Int.negSucc k)).toList =
        '-' :: Nat.toDigits 10 (k + 1) := by
      rw [Int.toString_eq_repr, Int.repr_eq_if, if_neg (by omega)]
      have magnitude : (-Int.negSucc k).toNat = k + 1 := rfl
      rw [magnitude, String.toList_append, Nat.toList_repr]
      rfl
    rw [Number.render, text, List.cons_append, readNumber?_negative _ ended]
    have same : -((k + 1 : Nat) : Int) = Int.negSucc k := rfl
    rw [numberOf, same, if_pos rfl, if_pos ⟨by omega, bounded⟩]
  | fractional x => exact whole.elim

/-! ## Values -/

mutual

/-- Whether every number in a value is an integer that 64 bits hold. -/
def Whole : Json → Prop
  | .null | .bool _ | .string _ => True
  | .number n => n.Whole
  | .array items => WholeItems items
  | .object members => WholeMembers members

/-- Whether every number in the items of an array is such an integer. -/
def WholeItems : List Json → Prop
  | [] => True
  | v :: vs => v.Whole ∧ WholeItems vs

/-- Whether every number in the members of an object is such an integer. -/
def WholeMembers : List (String × Json) → Prop
  | [] => True
  | (_, v) :: ms => v.Whole ∧ WholeMembers ms

end

mutual

/-- A value with the members of its objects sorted by key; of two members with
one key the later one stays. -/
def sorted : Json → Json
  | .array items => .array (sortedItems items)
  | .object members => ofMembers (sortedMembers members)
  | v => v

/-- The items of an array with the members of their objects sorted. -/
def sortedItems : List Json → List Json
  | [] => []
  | v :: vs => v.sorted :: sortedItems vs

/-- The members of an object with the members of their objects sorted. -/
def sortedMembers : List (String × Json) → List (String × Json)
  | [] => []
  | (k, v) :: ms => (k, v.sorted) :: sortedMembers ms

end

theorem Ended.comma (cs : List Char) : Ended (',' :: cs) :=
  Or.inr ⟨cs, Or.inl rfl⟩

theorem Ended.bracket (cs : List Char) : Ended (']' :: cs) :=
  Or.inr ⟨cs, Or.inr (Or.inl rfl)⟩

theorem Ended.brace (cs : List Char) : Ended ('\x7d' :: cs) :=
  Or.inr ⟨cs, Or.inr (Or.inr rfl)⟩

theorem render_number_starts {n : Number} (whole : n.Whole) :
    ∃ c cs, n.render.toList = c :: cs ∧ (c = '-' ∨ '0' ≤ c ∧ c ≤ '9') := by
  cases n with
  | natural n =>
    rcases digits : Nat.toDigits 10 n.toNat with _ | ⟨c, cs⟩
    · exact absurd digits Nat.toDigits_ne_nil
    · refine ⟨c, cs, by simp [Number.render, digits], Or.inr ?_⟩
      exact isDigit_of_mem_toDigits (n := n.toNat) (by simp [digits])
  | negative n =>
    refine ⟨'-', (-n).toNat.repr.toList, ?_, Or.inl rfl⟩
    have negative := whole.2
    rw [Number.render, Int.toString_eq_repr, Int.repr_eq_if,
      if_neg (by omega), String.toList_append]
    rfl
  | fractional x => exact whole.elim

theorem skipBlanks_number {c : Char} (start : c = '-' ∨ '0' ≤ c ∧ c ≤ '9')
    (cs : List Char) : skipBlanks (c :: cs) = c :: cs := by
  rw [skipBlanks, List.dropWhile_cons_of_neg]
  simp only [decide_eq_true_eq]
  rintro (rfl | rfl | rfl | rfl) <;> exact absurd start (by decide)

/-- What starts like a number is read as one. -/
theorem readValue_number {c : Char} (start : c = '-' ∨ '0' ≤ c ∧ c ≤ '9')
    (fuel : Nat) (cs : List Char) :
    readValue (fuel + 1) (c :: cs) =
      (readNumber? (c :: cs)).map fun (n, rest) => (.number n, rest) := by
  rw [readValue, skipBlanks_number start]
  split
  case h_7 => rfl
  all_goals
    next same =>
    cases same
    exact absurd start (by decide)

theorem toList_renderString (s : String) :
    (renderString s).toList =
      '"' :: (s.toList.flatMap escapedChar ++ ['"']) := by
  simp [renderString]

/-- The text of a value starts with a character that is neither blank nor a
closing bracket. -/
theorem render_starts (v : Json) (whole : v.Whole) (rest : List Char) :
    ∃ c cs, v.render.toList ++ rest = c :: cs ∧
      skipBlanks (c :: cs) = c :: cs ∧ c ≠ ']' := by
  cases v with
  | null => exact ⟨_, _, rfl, rfl, by decide⟩
  | bool b => cases b <;> exact ⟨_, _, rfl, rfl, by decide⟩
  | number n =>
    obtain ⟨c, cs, text, start⟩ := render_number_starts whole
    refine ⟨c, cs ++ rest, by rw [render, text]; rfl,
      skipBlanks_number start _, ?_⟩
    rintro rfl
    exact absurd start (by decide)
  | string s =>
    exact ⟨_, _, by rw [render, toList_renderString]; rfl, rfl, by decide⟩
  | array items =>
    exact ⟨_, _, by simp only [render, String.toList_append]; rfl, rfl,
      by decide⟩
  | object members =>
    exact ⟨_, _, by simp only [render, String.toList_append]; rfl, rfl,
      by decide⟩

/-- A quoted text is read as that text. -/
theorem readValue_renderString (s : String) (fuel : Nat)
    (rest : List Char) :
    readValue (fuel + 1) ((renderString s).toList ++ rest) =
      some (.string s, rest) := by
  have inside := readCharacters_flatMap s.toList
    (s.toList.flatMap escapedChar ++ '"' :: rest).length
    (by
      have longer := length_le_flatMap_escapedChar s.toList
      rw [List.length_append]
      omega) rest
  rw [toList_renderString, List.cons_append, List.append_assoc,
    List.singleton_append]
  have proper : ∀ cs, skipBlanks ('"' :: cs) = '"' :: cs := fun _ => rfl
  simp only [readValue, proper, inside, Option.map_some, String.ofList_toList]

/-- The key of a member is read as that text. -/
theorem readMembers_key (k : String) (fuel : Nat) (cs : List Char) :
    readMembers (fuel + 1) ((renderString k).toList ++ ':' :: cs) = (do
      let (v, rest) ← readValue fuel cs
      match skipBlanks rest with
      | ',' :: rest =>
        let (ms, rest) ← readMembers fuel rest
        some ((k, v) :: ms, rest)
      | '\x7d' :: rest => some ([(k, v)], rest)
      | _ => none) := by
  have longer := length_le_flatMap_escapedChar k.toList
  have inside := readCharacters_flatMap k.toList
    (k.toList.flatMap escapedChar ++ '"' :: ':' :: cs).length
    (by rw [List.length_append]; omega) (':' :: cs)
  have quote : ∀ cs, after? ['"'] (skipBlanks ('"' :: cs)) = some cs :=
    fun _ => rfl
  have colon : ∀ cs, after? [':'] (skipBlanks (':' :: cs)) = some cs :=
    fun _ => rfl
  rw [toList_renderString, List.cons_append, List.append_assoc,
    List.singleton_append, readMembers]
  simp only [quote, inside, colon, Option.bind_eq_bind, Option.bind_some,
    String.ofList_toList] <;> rfl

/-- What starts with a bracket is read as an array. -/
theorem readValue_bracket (fuel : Nat) (cs : List Char) :
    readValue (fuel + 1) ('[' :: cs) =
      match skipBlanks cs with
      | ']' :: rest => some (.array [], rest)
      | rest => (readItems fuel rest).map fun (vs, rest) =>
        (.array vs, rest) := rfl

/-- What starts with a brace is read as an object. -/
theorem readValue_brace (fuel : Nat) (cs : List Char) :
    readValue (fuel + 1) ('\x7b' :: cs) =
      match skipBlanks cs with
      | '\x7d' :: rest => some (.object [], rest)
      | rest => (readMembers fuel rest).map fun (ms, rest) =>
        (ofMembers ms, rest) := rfl

/-- The items of an array start as the first of them does. -/
theorem renderItems_starts (v : Json) (vs : List Json) :
    ∃ more, (renderItems (v :: vs)).toList = v.render.toList ++ more := by
  cases vs with
  | nil => exact ⟨[], by simp [renderItems]⟩
  | cons w vs => exact ⟨',' :: (renderItems (w :: vs)).toList, by
      simp [renderItems]⟩

/-- Whether reading to a given depth gives back every value, every list of
items and every list of members whose text is short enough for it. -/
structure ReadsBack (fuel : Nat) : Prop where
  value : ∀ v : Json, v.Whole → ∀ rest, Ended rest →
    2 * v.render.toList.length ≤ fuel →
      readValue fuel (v.render.toList ++ rest) = some (v.sorted, rest)
  items : ∀ v vs, WholeItems (v :: vs) → ∀ rest,
    2 * (renderItems (v :: vs)).toList.length < fuel →
      readItems fuel ((renderItems (v :: vs)).toList ++ ']' :: rest) =
        some (sortedItems (v :: vs), rest)
  members : ∀ m ms, WholeMembers (m :: ms) → ∀ rest,
    2 * (renderMembers (m :: ms)).toList.length < fuel →
      readMembers fuel ((renderMembers (m :: ms)).toList ++ '\x7d' :: rest) =
        some (sortedMembers (m :: ms), rest)

namespace ReadsBack

variable {fuel : Nat} {rest : List Char}

theorem array (shallow : ReadsBack fuel) {v : Json} {vs : List Json}
    (whole : WholeItems (v :: vs))
    (enough : 2 * (render (.array (v :: vs))).toList.length ≤ fuel + 1) :
    readValue (fuel + 1) ((render (.array (v :: vs))).toList ++ rest) =
      some (.array (sortedItems (v :: vs)), rest) := by
  have text : (render (.array (v :: vs))).toList ++ rest =
      '[' :: ((renderItems (v :: vs)).toList ++ ']' :: rest) := by
    simp [render]
  have inner := shallow.items v vs whole rest (by
    simp [render] at enough
    omega)
  obtain ⟨more, starts⟩ := renderItems_starts v vs
  obtain ⟨c, cs, first, proper, other⟩ :=
    render_starts v whole.1 (more ++ ']' :: rest)
  rw [← List.append_assoc, ← starts] at first
  rw [first] at inner
  rw [text, first, readValue_bracket, proper]
  split
  · next same => exact absurd (List.cons.inj same).1 other
  · rw [inner]
    rfl

theorem object (shallow : ReadsBack fuel) {m : String × Json}
    {ms : List (String × Json)} (whole : WholeMembers (m :: ms))
    (enough : 2 * (render (.object (m :: ms))).toList.length ≤ fuel + 1) :
    readValue (fuel + 1) ((render (.object (m :: ms))).toList ++ rest) =
      some (ofMembers (sortedMembers (m :: ms)), rest) := by
  have text : (render (.object (m :: ms))).toList ++ rest =
      '\x7b' :: ((renderMembers (m :: ms)).toList ++ '\x7d' :: rest) := by
    simp [render]
  have inner := shallow.members m ms whole rest (by
    simp [render] at enough
    omega)
  obtain ⟨cs, first⟩ : ∃ cs, (renderMembers (m :: ms)).toList ++
      '\x7d' :: rest = '"' :: cs := by
    obtain ⟨k, v⟩ := m
    cases ms <;> simp [renderMembers, toList_renderString]
  have quote : skipBlanks ('"' :: cs) = '"' :: cs := rfl
  rw [first] at inner
  rw [text, first, readValue_brace, quote]
  change (readMembers fuel ('"' :: cs)).map _ = _
  rw [inner]
  rfl

theorem value_succ (shallow : ReadsBack fuel) (v : Json) (whole : v.Whole)
    (ended : Ended rest) (enough : 2 * v.render.toList.length ≤ fuel + 1) :
    readValue (fuel + 1) (v.render.toList ++ rest) = some (v.sorted, rest) := by
  cases v with
  | null => rfl
  | bool b => cases b <;> rfl
  | number n =>
    obtain ⟨c, cs, text, start⟩ := render_number_starts whole
    have reads := readNumber?_render whole ended
    rw [text] at reads
    rw [render, text, List.cons_append, readValue_number start,
      ← List.cons_append, reads]
    rfl
  | string s => exact readValue_renderString s fuel rest
  | array items =>
    cases items with
    | nil => rfl
    | cons v vs => exact shallow.array whole enough
  | object members =>
    cases members with
    | nil => rfl
    | cons m ms => exact shallow.object whole enough

theorem items_succ (shallow : ReadsBack fuel) (v : Json) (vs : List Json)
    (whole : WholeItems (v :: vs))
    (enough : 2 * (renderItems (v :: vs)).toList.length < fuel + 1) :
    readItems (fuel + 1) ((renderItems (v :: vs)).toList ++ ']' :: rest) =
      some (sortedItems (v :: vs), rest) := by
  cases vs with
  | nil =>
    have value := shallow.value v whole.1 (']' :: rest) (.bracket rest)
      (by simp only [renderItems] at enough; omega)
    simp only [renderItems, readItems, value, Option.bind_eq_bind,
      Option.bind_some]
    rfl
  | cons w vs =>
    have text : (renderItems (v :: w :: vs)).toList ++ ']' :: rest =
        v.render.toList ++
          ',' :: ((renderItems (w :: vs)).toList ++ ']' :: rest) := by
      simp [renderItems]
    have value := shallow.value v whole.1 _
      (.comma ((renderItems (w :: vs)).toList ++ ']' :: rest))
      (by simp [renderItems] at enough; omega)
    have later := shallow.items w vs whole.2 rest
      (by simp [renderItems] at enough ⊢; omega)
    rw [text, readItems]
    simp only [value, Option.bind_eq_bind, Option.bind_some]
    simp [skipBlanks, later, sortedItems]

theorem members_succ (shallow : ReadsBack fuel) (m : String × Json)
    (ms : List (String × Json)) (whole : WholeMembers (m :: ms))
    (enough : 2 * (renderMembers (m :: ms)).toList.length < fuel + 1) :
    readMembers (fuel + 1)
        ((renderMembers (m :: ms)).toList ++ '\x7d' :: rest) =
      some (sortedMembers (m :: ms), rest) := by
  obtain ⟨k, v⟩ := m
  cases ms with
  | nil =>
    have text : (renderMembers [(k, v)]).toList ++ '\x7d' :: rest =
        (renderString k).toList ++
          ':' :: (v.render.toList ++ '\x7d' :: rest) := by
      simp [renderMembers]
    have value := shallow.value v whole.1 _ (.brace rest)
      (by simp [renderMembers] at enough; omega)
    rw [text, readMembers_key, value]
    rfl
  | cons m ms =>
    have text : (renderMembers ((k, v) :: m :: ms)).toList ++
        '\x7d' :: rest = (renderString k).toList ++ ':' :: (v.render.toList ++
          ',' :: ((renderMembers (m :: ms)).toList ++ '\x7d' :: rest)) := by
      simp [renderMembers]
    have value := shallow.value v whole.1 _
      (.comma ((renderMembers (m :: ms)).toList ++ '\x7d' :: rest))
      (by simp [renderMembers] at enough; omega)
    have later := shallow.members m ms whole.2 rest
      (by simp [renderMembers] at enough ⊢; omega)
    rw [text, readMembers_key, value]
    simp [skipBlanks, later, sortedMembers]

end ReadsBack

/-- Reading gives back whatever is short enough for its depth. -/
theorem readsBack (fuel : Nat) : ReadsBack fuel := by
  induction fuel with
  | zero =>
    refine ⟨fun v whole rest ended enough => ?_, fun _ _ _ _ enough => ?_,
      fun _ _ _ _ enough => ?_⟩
    · obtain ⟨c, cs, text, -⟩ := render_starts v whole []
      have long := congrArg List.length text
      simp only [List.append_nil, List.length_cons] at long
      omega
    · omega
    · omega
  | succ fuel ih =>
    exact ⟨fun v whole _ ended => ih.value_succ v whole ended,
      fun v vs whole _ => ih.items_succ v vs whole,
      fun m ms whole _ => ih.members_succ m ms whole⟩

/-- The text of a value is read as the value, with the members of its objects
sorted. -/
theorem parse?_render (v : Json) (whole : v.Whole) :
    parse? v.render = some v.sorted := by
  have reads := (readsBack (2 * v.render.toList.length + 1)).value v whole []
    (Or.inl rfl) (by omega)
  rw [List.append_nil] at reads
  simp only [parse?, reads, Option.bind_eq_bind, Option.bind_some]
  rfl

end InterfaceManager.Json

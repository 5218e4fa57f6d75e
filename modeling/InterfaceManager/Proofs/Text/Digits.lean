import InterfaceManager.Text.Digits

/-!
# Digits of numbers and numbers of digits

The digits of a number read back as that number, in every base in which
digits can be written, and under every bound that the number meets.  A text
is read under a bound if and only if it is a decimal number within it.
-/

namespace InterfaceManager.Text

variable {base n : Nat}

theorem digitValue?_digitChar {d : Nat} (small : d < base)
    (sixteen : base ≤ 16) : digitValue? base (Nat.digitChar d) = some d := by
  have digit : ∀ d < 16,
      digitValue? 16 (Nat.digitChar d) = some d := by decide
  have value := digit d (by omega)
  simp only [digitValue?, Option.filter_eq_some_iff] at value ⊢
  exact ⟨value.1, decide_eq_true small⟩

/-- The decimal digits are the characters with a value in base ten. -/
theorem digitValue?_ten (c : Char) :
    digitValue? 10 c =
      if c.isDigit = true then some (c.toNat - '0'.toNat) else none := by
  by_cases digit : '0' ≤ c ∧ c ≤ '9'
  · have upper : c.toNat ≤ '9'.toNat := digit.2
    have small : c.toNat - '0'.toNat < 10 := by
      have nine : '9'.toNat = '0'.toNat + 9 := rfl
      omega
    have isDigit : c.isDigit = true := by
      simpa [Char.isDigit, Char.le_def] using digit
    simpa [digitValue?, digit, isDigit] using small
  · have isDigit : c.isDigit ≠ true := by
      simpa [Char.isDigit, Char.le_def] using digit
    rw [if_neg isDigit, digitValue?, if_neg digit]
    split
    · simp
    · split <;> simp

/-- The characters with a value in base sixteen are hexadecimal digits. -/
theorem isHexDigit_of_digitValue? {c : Char}
    (value : (digitValue? 16 c).isSome = true) : c.isHexDigit = true := by
  refine Decidable.byContradiction fun noDigit => ?_
  have outside : ¬ ('0' ≤ c ∧ c ≤ '9') ∧ ¬ ('a' ≤ c ∧ c ≤ 'f') ∧
      ¬ ('A' ≤ c ∧ c ≤ 'F') := by
    simpa [Char.isHexDigit, Char.isDigit, Char.le_def, and_assoc]
      using noDigit
  simp [digitValue?, outside] at value

/-- What is read so far comes first. -/
theorem digitsAfter?_append (read : Nat) (cs ds : List Char) :
    digitsAfter? base read (cs ++ ds) =
      (digitsAfter? base read cs).bind fun m => digitsAfter? base m ds := by
  induction cs generalizing read with
  | nil => rfl
  | cons c cs ih =>
    rcases value : digitValue? base c with _ | d
    · simp [digitsAfter?, value]
    · simp [digitsAfter?, value, ih]

theorem digitsAfter?_toDigits (two : 2 ≤ base) (sixteen : base ≤ 16)
    (n : Nat) : digitsAfter? base 0 (Nat.toDigits base n) = some n := by
  induction n using Nat.strongRecOn with
  | ind n ih =>
    have value := digitValue?_digitChar (Nat.mod_lt n (by omega)) sixteen
    rw [Nat.toDigits_eq_if two]
    split
    · next small =>
      rw [Nat.mod_eq_of_lt small] at value
      simp [digitsAfter?, value]
    · next large =>
      have shorter : n / base < n := Nat.div_lt_self (by omega) two
      rw [digitsAfter?_append, ih _ shorter]
      simp [digitsAfter?, value, Nat.div_add_mod']

/-- The digits of a number are read as that number. -/
theorem natOfDigits?_toDigits (two : 2 ≤ base) (sixteen : base ≤ 16)
    (n : Nat) : natOfDigits? base (Nat.toDigits base n) = some n := by
  rw [natOfDigits?, if_neg Nat.toDigits_ne_nil,
    digitsAfter?_toDigits two sixteen]

/-- Whatever is read as a number consists of digits. -/
theorem isSome_digitValue?_of_mem {cs : List Char} {c : Char} {read : Nat}
    (reads : digitsAfter? base read cs = some n) (among : c ∈ cs) :
    (digitValue? base c).isSome := by
  induction cs generalizing read with
  | nil => cases among
  | cons d cs ih =>
    rcases value : digitValue? base d with _ | v
    · simp [digitsAfter?, value] at reads
    · rcases List.mem_cons.mp among with rfl | later
      · simp [value]
      · simp only [digitsAfter?, value, Option.bind_some] at reads
        exact ih reads later

/-- A character that is no digit is not among the digits of a number. -/
theorem not_mem_toDigits {c : Char} (two : 2 ≤ base) (sixteen : base ≤ 16)
    (noDigit : digitValue? base c = none) : c ∉ Nat.toDigits base n := by
  intro among
  have digit := isSome_digitValue?_of_mem
    (digitsAfter?_toDigits two sixteen n) among
  simp [noDigit] at digit

/-- The digits of a number other than zero do not start with a zero. -/
theorem head?_toDigits_ne_zero (two : 2 ≤ base) (positive : 0 < n) :
    (Nat.toDigits base n).head? ≠ some '0' := by
  induction n using Nat.strongRecOn with
  | ind n ih =>
    rw [Nat.toDigits_eq_if two]
    split
    · simp [Nat.digitChar_eq_zero, Nat.ne_of_gt positive]
    · next large =>
      have ahead := ih (n / base) (Nat.div_lt_self positive two)
        (Nat.div_pos (by omega) (by omega))
      rcases digits : Nat.toDigits base (n / base) with _ | ⟨c, cs⟩
      · exact absurd digits Nat.toDigits_ne_nil
      · rw [digits] at ahead
        exact ahead

/-! ## Bounded numbers -/

section Bounded

variable {bound : Nat} {fault : NumberFault}

theorem boundedAfter_append (read : Nat) (cs ds : List Char) :
    boundedAfter bound fault read (cs ++ ds) =
      match boundedAfter bound fault read cs with
      | .ok m => boundedAfter bound fault m ds
      | .error e => .error e := by
  induction cs generalizing read with
  | nil => rfl
  | cons c cs ih =>
    simp only [List.cons_append, boundedAfter]
    split
    · rfl
    · split
      · rfl
      · exact ih _

theorem boundedAfter_toDigits (fault : NumberFault) (within : n ≤ bound) :
    boundedAfter bound fault 0 (Nat.toDigits 10 n) = .ok n := by
  induction n using Nat.strongRecOn with
  | ind n ih =>
    have value := digitValue?_digitChar (Nat.mod_lt n (by omega : 0 < 10))
      (by omega)
    rw [Nat.toDigits_eq_if (by omega)]
    split
    · next small =>
      rw [Nat.mod_eq_of_lt small] at value
      simp [boundedAfter, value, within]
    · next large =>
      rw [boundedAfter_append, ih (n / 10) (by omega) (by omega)]
      simp [boundedAfter, value, Nat.div_add_mod', within]

/-- The decimal digits of a number within the bound are read as that
number. -/
theorem boundedNat_toDigits (within : n ≤ bound) :
    boundedNat bound (Nat.toDigits 10 n) = .ok n := by
  have unsigned : '+' ∉ Nat.toDigits 10 n :=
    not_mem_toDigits (by omega) (by omega) (by decide)
  rw [← boundedAfter_toDigits .tooLarge within]
  rcases digits : Nat.toDigits 10 n with _ | ⟨c, cs⟩
  · exact absurd digits Nat.toDigits_ne_nil
  · rw [digits] at unsigned
    have other : c ≠ '+' := fun same => unsigned (by simp [same])
    simp [boundedNat, other]

/-- Digits never lead back to a smaller number. -/
theorem le_ofDigitChars (cs : List Char) (read : Nat) :
    read ≤ Nat.ofDigitChars 10 cs read := by
  induction cs generalizing read with
  | nil => exact Nat.le_refl _
  | cons c cs ih =>
    rw [Nat.ofDigitChars_cons]
    have later := ih (10 * read + (c.toNat - '0'.toNat))
    omega

/-- Digits are read as the number that they write, if it is within the
bound. -/
theorem boundedAfter_eq_ok_iff {cs : List Char} {read : Nat}
    (within : read ≤ bound) :
    boundedAfter bound fault read cs = .ok n ↔
      (∀ c ∈ cs, c.isDigit = true) ∧ Nat.ofDigitChars 10 cs read = n ∧
        n ≤ bound := by
  induction cs generalizing read with
  | nil =>
    simp only [boundedAfter, Except.ok.injEq, Nat.ofDigitChars_nil]
    constructor
    · rintro rfl
      exact ⟨by simp, rfl, within⟩
    · rintro ⟨-, same, -⟩
      exact same
  | cons c cs ih =>
    rw [boundedAfter, digitValue?_ten, List.forall_mem_cons,
      Nat.ofDigitChars_cons, Nat.mul_comm 10 read]
    by_cases digit : c.isDigit = true
    · simp only [digit, if_true, true_and]
      split
      · next beyond =>
        -- The number only grows, so no digits bring it back below the bound.
        have later := le_ofDigitChars cs (read * 10 + (c.toNat - '0'.toNat))
        simp only [reduceCtorEq, false_iff]
        rintro ⟨-, rfl, small⟩
        omega
      · next small => exact ih (Nat.le_of_not_lt small)
    · simp [digit]

/-- A decimal number: one or more digits after an optional plus sign. -/
inductive WritesNat : List Char → Nat → Prop
  | digits {cs : List Char} (some : cs ≠ [])
      (digits : ∀ c ∈ cs, c.isDigit = true) :
      WritesNat cs (Nat.ofDigitChars 10 cs 0)
  | plus {cs : List Char} (some : cs ≠ [])
      (digits : ∀ c ∈ cs, c.isDigit = true) :
      WritesNat ('+' :: cs) (Nat.ofDigitChars 10 cs 0)

/-- A number consists of digits and a sign. -/
theorem WritesNat.digit_or_plus {cs : List Char} (writes : WritesNat cs n) :
    ∀ c ∈ cs, c.isDigit = true ∨ c = '+' := by
  intro c among
  cases writes with
  | digits _ digits => exact Or.inl (digits c among)
  | plus _ digits =>
    rcases List.mem_cons.mp among with rfl | later
    · exact Or.inr rfl
    · exact Or.inl (digits c later)

/-- What is read under a bound is the decimal numbers within it. -/
theorem boundedNat_eq_ok_iff {cs : List Char} :
    boundedNat bound cs = .ok n ↔ WritesNat cs n ∧ n ≤ bound := by
  have unsigned : ∀ {c : Char}, c.isDigit = true → c ≠ '+' := by
    rintro _ digit rfl
    cases digit
  unfold boundedNat
  split
  · simp only [reduceCtorEq, false_iff]
    rintro ⟨writes, -⟩
    cases writes with
    | digits some _ => exact some rfl
  · simp only [reduceCtorEq, false_iff]
    rintro ⟨writes, -⟩
    cases writes with
    | digits _ digits => exact unsigned (digits '+' (by simp)) rfl
    | plus some _ => exact some rfl
  · next cs some =>
    rw [boundedAfter_eq_ok_iff (Nat.zero_le _)]
    constructor
    · rintro ⟨digits, rfl, small⟩
      exact ⟨.plus (fun none => some (none ▸ rfl)) digits, small⟩
    · rintro ⟨writes, small⟩
      cases writes with
      | digits _ digits => exact absurd rfl (unsigned (digits '+' (by simp)))
      | plus _ digits => exact ⟨digits, rfl, small⟩
  · next some _ other =>
    rw [boundedAfter_eq_ok_iff (Nat.zero_le _)]
    constructor
    · rintro ⟨digits, rfl, small⟩
      exact ⟨.digits some digits, small⟩
    · rintro ⟨writes, small⟩
      cases writes with
      | digits _ digits => exact ⟨digits, rfl, small⟩
      | plus _ digits => exact absurd rfl (other _)

/-- A text writes at most one number. -/
theorem WritesNat.unique {cs : List Char} {m : Nat} (writes : WritesNat cs n)
    (other : WritesNat cs m) : n = m := by
  have reads := boundedNat_eq_ok_iff.mpr ⟨writes, Nat.le_max_left n m⟩
  rw [boundedNat_eq_ok_iff.mpr ⟨other, Nat.le_max_right n m⟩] at reads
  exact (Except.ok.inj reads).symm

end Bounded

end InterfaceManager.Text

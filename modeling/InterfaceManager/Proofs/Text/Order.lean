import InterfaceManager.Proofs.Text.Utf8

/-!
# The order of texts

Texts are ordered like their octets.  Of two characters, the one with the
greater number has the greater octet at the first difference: the octets hold
the digits of the number, the most significant first, and a character with
more octets starts with a greater one.
-/

namespace InterfaceManager.Text

/-- Octet strings that start differently are compared by their first octets. -/
theorem cons_ofNat_lt {a b : Nat} (less : a < b) (small : b < 256)
    (rest rest' : Octets) : UInt8.ofNat a :: rest < UInt8.ofNat b :: rest' := by
  refine List.cons_lt_cons_iff.mpr (Or.inl ?_)
  rw [UInt8.lt_iff_toNat_lt, UInt8.toNat_ofNat', UInt8.toNat_ofNat',
    Nat.mod_eq_of_lt small, Nat.mod_eq_of_lt (Nat.lt_trans less small)]
  exact less

/-- The last octets decide if those before agree. -/
theorem tail_lt {n m : Nat} (less : n < m) (front front' : Octets)
    (ahead : n / 64 < m / 64 → ∀ rest rest',
      front ++ rest < front' ++ rest')
    (level : n / 64 = m / 64 → front = front') (rest rest' : Octets) :
    front ++ UInt8.ofNat (n % 64 + 128) :: rest <
      front' ++ UInt8.ofNat (m % 64 + 128) :: rest' := by
  rcases Nat.lt_or_ge (n / 64) (m / 64) with before | after
  · exact ahead before _ _
  · have same : n / 64 = m / 64 := by omega
    rw [level same]
    exact List.append_left_lt (cons_ofNat_lt (by omega) (by omega) _ _)

section Characters

variable {n m : Nat} (less : n < m) (rest rest' : Octets)

include less

theorem two_octets_lt (small : m < 0x800) :
    [UInt8.ofNat (n / 64 % 32 + 192), UInt8.ofNat (n % 64 + 128)] ++ rest <
      [UInt8.ofNat (m / 64 % 32 + 192), UInt8.ofNat (m % 64 + 128)] ++
        rest' :=
  tail_lt less [_] [_]
    (fun less => cons_ofNat_lt (by omega) (by omega))
    (fun level => by rw [level]) rest rest'

theorem three_octets_lt (small : m < 0x10000) :
    [UInt8.ofNat (n / 4096 % 16 + 224), UInt8.ofNat (n / 64 % 64 + 128),
        UInt8.ofNat (n % 64 + 128)] ++ rest <
      [UInt8.ofNat (m / 4096 % 16 + 224), UInt8.ofNat (m / 64 % 64 + 128),
        UInt8.ofNat (m % 64 + 128)] ++ rest' := by
  have shorter : ∀ k, k / 4096 = k / 64 / 64 := by omega
  simp only [shorter]
  refine tail_lt less [_, _] [_, _] (fun less => ?_)
    (fun level => by rw [level]) rest rest'
  exact tail_lt less [_] [_]
    (fun less => cons_ofNat_lt (by omega) (by omega))
    (fun level => by rw [level])

theorem four_octets_lt (small : m < 0x110000) :
    [UInt8.ofNat (n / 262144 % 8 + 240), UInt8.ofNat (n / 4096 % 64 + 128),
        UInt8.ofNat (n / 64 % 64 + 128), UInt8.ofNat (n % 64 + 128)] ++ rest <
      [UInt8.ofNat (m / 262144 % 8 + 240), UInt8.ofNat (m / 4096 % 64 + 128),
        UInt8.ofNat (m / 64 % 64 + 128), UInt8.ofNat (m % 64 + 128)] ++
        rest' := by
  have short : ∀ k, k / 4096 = k / 64 / 64 := by omega
  have shorter : ∀ k, k / 262144 = k / 64 / 64 / 64 := by omega
  simp only [short, shorter]
  refine tail_lt less [_, _, _] [_, _, _] (fun less => ?_)
    (fun level => by rw [level]) rest rest'
  refine tail_lt less [_, _] [_, _] (fun less => ?_)
    (fun level => by rw [level])
  exact tail_lt less [_] [_]
    (fun less => cons_ofNat_lt (by omega) (by omega))
    (fun level => by rw [level])

end Characters

/-- A greater character has greater octets, whatever follows. -/
theorem encode_lt {c d : Char} (less : c < d) (rest rest' : Octets) :
    String.utf8EncodeChar c ++ rest < String.utf8EncodeChar d ++ rest' := by
  have less : c.val.toNat < d.val.toNat := less
  have scalar : d.val.toNat < 0xd800 ∨
      0xdfff < d.val.toNat ∧ d.val.toNat < 0x110000 := d.valid
  rw [String.utf8EncodeChar, String.utf8EncodeChar]
  generalize c.val.toNat = n at less ⊢
  generalize d.val.toNat = m at less scalar ⊢
  -- A character with more octets starts with a greater one.
  have ahead : ∀ {a b : Nat} {rest rest' : Octets}, a < b → b < 256 →
      UInt8.ofNat a :: rest < UInt8.ofNat b :: rest' :=
    fun less small => cons_ofNat_lt less small _ _
  split
  · next one =>
    split
    · exact ahead less (by omega)
    split
    · exact ahead (by omega) (by omega)
    split <;> exact ahead (by omega) (by omega)
  split
  · next two =>
    rw [if_neg (by omega)]
    split
    · exact two_octets_lt less rest rest' (by omega)
    split <;> exact ahead (by omega) (by omega)
  split
  · next three =>
    rw [if_neg (by omega), if_neg (by omega)]
    split
    · exact three_octets_lt less rest rest' (by omega)
    · exact ahead (by omega) (by omega)
  · next four =>
    rw [if_neg (by omega), if_neg (by omega), if_neg (by omega)]
    exact four_octets_lt less rest rest' (by omega)

theorem octets_lt {text text' : String} (less : text < text') :
    octets text < octets text' := by
  have less : text.toList < text'.toList := less
  rw [octets_eq_flatMap, octets_eq_flatMap]
  generalize text.toList = cs at less ⊢
  generalize text'.toList = ds at less ⊢
  induction less with
  | @nil d ds =>
    obtain ⟨b, bs, encoded⟩ :=
      List.exists_cons_of_ne_nil (String.utf8EncodeChar_ne_nil (c := d))
    simp [encoded]
  | rel less =>
    simp only [List.flatMap_cons]
    exact encode_lt less _ _
  | cons _ ih =>
    simp only [List.flatMap_cons]
    exact List.append_left_lt ih

/-- Texts are ordered like their octets. -/
theorem octets_le_iff {text text' : String} :
    octets text ≤ octets text' ↔ text ≤ text' := by
  rw [← List.not_lt, ← String.not_lt]
  refine not_congr ⟨fun less => ?_, octets_lt⟩
  by_cases after : text < text'
  · exact absurd less (List.lt_asymm (octets_lt after))
  by_cases before : text' < text
  · exact before
  · have same := String.le_antisymm (String.not_lt.mp before)
      (String.not_lt.mp after)
    exact absurd (same ▸ less) (List.lt_irrefl _)

end InterfaceManager.Text

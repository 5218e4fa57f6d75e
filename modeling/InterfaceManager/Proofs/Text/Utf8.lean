import InterfaceManager.Text.Utf8

/-!
# Decoding the octets of a text

What comes from a text is decoded to that text.  The octets of a character
lead the decoder back to the state between characters, with this character
decoded, whatever follows.
-/

namespace InterfaceManager.Text

theorem toList_loop (bytes : ByteArray) (i : Nat) (taken : List UInt8) :
    ByteArray.toList.loop bytes i taken =
      taken.reverse ++ bytes.data.toList.drop i := by
  induction i, taken using ByteArray.toList.loop.induct bytes with
  | case1 i taken more ih =>
    have inside : i < bytes.data.toList.length := by simpa using more
    have read : bytes.get! i = bytes.data.toList[i] := by
      simp only [ByteArray.get!, Array.getElem_toList]
      exact getElem!_pos bytes.data i (by simpa using more)
    rw [ByteArray.toList.loop, if_pos more, ih,
      List.drop_eq_getElem_cons inside, read]
    simp
  | case2 i taken done =>
    have beyond : bytes.data.toList.length ≤ i := by simpa using done
    rw [ByteArray.toList.loop, if_neg done]
    simp [List.drop_eq_nil_of_le beyond]

/-- The octets of a text are those of its characters, in order. -/
theorem octets_eq_flatMap (text : String) :
    octets text = text.toList.flatMap String.utf8EncodeChar := by
  have encoded := String.utf8Encode_toList (b := text)
  rw [octets, String.toUTF8, ByteArray.toList, toList_loop, ← encoded,
    List.utf8Encode, List.toList_data_toByteArray]
  simp

section Continuing

variable {bits : Nat} {low high b : UInt8}
  (above : low ≤ b) (below : b ≤ high) (rest : Octets)

include above below

theorem decodeAfter_last :
    decodeAfter (some ⟨bits, low, high, 0⟩) (b :: rest) =
      Char.ofNat (bits * 64 + b.toNat % 64) :: decodeAfter none rest := by
  simp [decodeAfter, above, below]

theorem decodeAfter_next (owed : Nat) :
    decodeAfter (some ⟨bits, low, high, owed + 1⟩) (b :: rest) =
      decodeAfter (some ⟨bits * 64 + b.toNat % 64, 0x80, 0xbf, owed⟩)
        rest := by
  simp [decodeAfter, above, below]

end Continuing

/-- The octet that ends in the last six bits of `n`. -/
theorem toNat_tail (n : Nat) :
    (UInt8.ofNat (n % 64 + 128)).toNat = n % 64 + 128 := by
  rw [UInt8.toNat_ofNat', Nat.mod_eq_of_lt (by omega)]

theorem tail_above (n : Nat) : 0x80 ≤ UInt8.ofNat (n % 64 + 128) := by
  rw [UInt8.le_iff_toNat_le, toNat_tail]
  exact Nat.le_add_left 128 _

theorem tail_below (n : Nat) : UInt8.ofNat (n % 64 + 128) ≤ 0xbf := by
  rw [UInt8.le_iff_toNat_le, toNat_tail]
  exact Nat.add_le_add_right (Nat.le_of_lt_succ (Nat.mod_lt n (by decide))) 128

theorem tail_bits (n : Nat) :
    (UInt8.ofNat (n % 64 + 128)).toNat % 64 = n % 64 := by
  rw [toNat_tail]
  omega

/-! ## First octets -/

theorem decodeAfter_single {b : UInt8} (single : b < 0x80) (rest : Octets) :
    decodeAfter none (b :: rest) =
      Char.ofNat b.toNat :: decodeAfter none rest := by
  simp [decodeAfter, decodeAfter.decodeFresh, single]

/-- A first octet that contributes `bits` and lets `owed + 1` octets follow,
the next of them from `low` to `high`. -/
structure Leads (b : UInt8) (bits : Nat) (low high : UInt8) (owed : Nat) :
    Prop where
  long : ¬ b < 0x80
  continued : continuation? b = some (low, high, owed)
  contributes : leadBits b = bits

theorem Leads.decodeAfter {b low high : UInt8} {bits owed : Nat}
    (leads : Leads b bits low high owed) (rest : Octets) :
    decodeAfter none (b :: rest) =
      decodeAfter (some ⟨bits, low, high, owed⟩) rest := by
  simp [Text.decodeAfter, decodeAfter.decodeFresh, leads.long,
    leads.continued, leads.contributes]

theorem leads_two {k : Nat} (above : 2 ≤ k) (below : k < 32) :
    Leads (UInt8.ofNat (k + 192)) k 0x80 0xbf 0 := by
  have all : ∀ k < 32, 2 ≤ k → ¬ UInt8.ofNat (k + 192) < 0x80 ∧
      continuation? (UInt8.ofNat (k + 192)) = some (0x80, 0xbf, 0) ∧
      leadBits (UInt8.ofNat (k + 192)) = k := by decide
  obtain ⟨long, continued, contributes⟩ := all k below above
  exact ⟨long, continued, contributes⟩

/-- Overlong forms and surrogates are excluded by the second octet. -/
theorem leads_three {k : Nat} (below : k < 16) :
    Leads (UInt8.ofNat (k + 224)) k (if k = 0 then 0xa0 else 0x80)
      (if k = 13 then 0x9f else 0xbf) 1 := by
  have all : ∀ k < 16, ¬ UInt8.ofNat (k + 224) < 0x80 ∧
      continuation? (UInt8.ofNat (k + 224)) =
        some (if k = 0 then 0xa0 else 0x80, if k = 13 then 0x9f else 0xbf,
          1) ∧
      leadBits (UInt8.ofNat (k + 224)) = k := by decide
  obtain ⟨long, continued, contributes⟩ := all k below
  exact ⟨long, continued, contributes⟩

/-- Overlong forms and numbers that are too large are excluded by the second
octet. -/
theorem leads_four {k : Nat} (below : k < 5) :
    Leads (UInt8.ofNat (k + 240)) k (if k = 0 then 0x90 else 0x80)
      (if k = 4 then 0x8f else 0xbf) 2 := by
  have all : ∀ k < 5, ¬ UInt8.ofNat (k + 240) < 0x80 ∧
      continuation? (UInt8.ofNat (k + 240)) =
        some (if k = 0 then 0x90 else 0x80, if k = 4 then 0x8f else 0xbf,
          2) ∧
      leadBits (UInt8.ofNat (k + 240)) = k := by decide
  obtain ⟨long, continued, contributes⟩ := all k below
  exact ⟨long, continued, contributes⟩

/-! ## Characters -/

section Characters

variable {n : Nat} (rest : Octets)

theorem decodeAfter_one (small : n < 0x80) :
    decodeAfter none (UInt8.ofNat n :: rest) =
      Char.ofNat n :: decodeAfter none rest := by
  have value : (UInt8.ofNat n).toNat = n := by
    rw [UInt8.toNat_ofNat', Nat.mod_eq_of_lt (by omega)]
  have single : UInt8.ofNat n < 0x80 := by
    rw [UInt8.lt_iff_toNat_lt, value]
    exact small
  rw [decodeAfter_single single, value]

theorem decodeAfter_two (large : 0x80 ≤ n) (small : n < 0x800) :
    decodeAfter none (UInt8.ofNat (n / 64 + 192) ::
        UInt8.ofNat (n % 64 + 128) :: rest) =
      Char.ofNat n :: decodeAfter none rest := by
  have leads := leads_two (k := n / 64) (by omega) (by omega)
  have whole : n / 64 * 64 + n % 64 = n := by omega
  rw [leads.decodeAfter, decodeAfter_last (tail_above n) (tail_below n),
    tail_bits, whole]

theorem decodeAfter_three (large : 0x800 ≤ n) (small : n < 0x10000)
    (scalar : n < 0xd800 ∨ 0xdfff < n) :
    decodeAfter none (UInt8.ofNat (n / 4096 + 224) ::
        UInt8.ofNat (n / 64 % 64 + 128) :: UInt8.ofNat (n % 64 + 128) ::
        rest) =
      Char.ofNat n :: decodeAfter none rest := by
  have leads := leads_three (k := n / 4096) (by omega)
  have above : (if n / 4096 = 0 then 0xa0 else 0x80) ≤
      UInt8.ofNat (n / 64 % 64 + 128) := by
    split
    · rw [UInt8.le_iff_toNat_le, toNat_tail]
      show 160 ≤ n / 64 % 64 + 128
      omega
    · exact tail_above _
  have below : UInt8.ofNat (n / 64 % 64 + 128) ≤
      if n / 4096 = 13 then 0x9f else 0xbf := by
    split
    · rw [UInt8.le_iff_toNat_le, toNat_tail]
      show n / 64 % 64 + 128 ≤ 159
      omega
    · exact tail_below _
  have whole : (n / 4096 * 64 + n / 64 % 64) * 64 + n % 64 = n := by omega
  rw [leads.decodeAfter, decodeAfter_next above below, tail_bits,
    decodeAfter_last (tail_above n) (tail_below n), tail_bits, whole]

theorem decodeAfter_four (large : 0x10000 ≤ n) (small : n < 0x110000) :
    decodeAfter none (UInt8.ofNat (n / 262144 + 240) ::
        UInt8.ofNat (n / 4096 % 64 + 128) ::
        UInt8.ofNat (n / 64 % 64 + 128) :: UInt8.ofNat (n % 64 + 128) ::
        rest) =
      Char.ofNat n :: decodeAfter none rest := by
  have leads := leads_four (k := n / 262144) (by omega)
  have above : (if n / 262144 = 0 then 0x90 else 0x80) ≤
      UInt8.ofNat (n / 4096 % 64 + 128) := by
    split
    · rw [UInt8.le_iff_toNat_le, toNat_tail]
      show 144 ≤ n / 4096 % 64 + 128
      omega
    · exact tail_above _
  have below : UInt8.ofNat (n / 4096 % 64 + 128) ≤
      if n / 262144 = 4 then 0x8f else 0xbf := by
    split
    · rw [UInt8.le_iff_toNat_le, toNat_tail]
      show n / 4096 % 64 + 128 ≤ 143
      omega
    · exact tail_below _
  have whole : ((n / 262144 * 64 + n / 4096 % 64) * 64 + n / 64 % 64) * 64 +
      n % 64 = n := by omega
  rw [leads.decodeAfter, decodeAfter_next above below, tail_bits,
    decodeAfter_next (tail_above _) (tail_below _), tail_bits,
    decodeAfter_last (tail_above n) (tail_below n), tail_bits, whole]

/-- The octets of a character are decoded to the character. -/
theorem decodeAfter_encode (c : Char) :
    decodeAfter none (String.utf8EncodeChar c ++ rest) =
      c :: decodeAfter none rest := by
  have scalar : c.val.toNat < 0xd800 ∨
      0xdfff < c.val.toNat ∧ c.val.toNat < 0x110000 := c.valid
  have itself : Char.ofNat c.val.toNat = c := Char.ofNat_toNat c
  rw [String.utf8EncodeChar]
  generalize c.val.toNat = n at scalar itself ⊢
  subst itself
  split
  · next one => exact decodeAfter_one rest (by omega)
  split
  · next two =>
    have lead : n / 64 % 32 = n / 64 := by omega
    rw [lead]
    exact decodeAfter_two rest (by omega) (by omega)
  split
  · next three =>
    have lead : n / 4096 % 16 = n / 4096 := by omega
    rw [lead]
    exact decodeAfter_three rest (by omega) (by omega) (by omega)
  · next four =>
    have lead : n / 262144 % 8 = n / 262144 := by omega
    rw [lead]
    exact decodeAfter_four rest (by omega) (by omega)

end Characters

/-- The octets of a text are decoded to the text. -/
theorem decodeLossy_octets (text : String) :
    decodeLossy (octets text) = text := by
  have decoded : ∀ cs : List Char,
      decodeAfter none (cs.flatMap String.utf8EncodeChar) = cs := by
    intro cs
    induction cs with
    | nil => rfl
    | cons c cs ih => rw [List.flatMap_cons, decodeAfter_encode, ih]
  rw [decodeLossy, octets_eq_flatMap, decoded, String.ofList_toList]

theorem octets_inj {text text' : String} :
    octets text = octets text' ↔ text = text' := by
  refine ⟨fun same => ?_, congrArg octets⟩
  rw [← decodeLossy_octets text, same, decodeLossy_octets]

theorem octets_eq_nil_iff {text : String} : octets text = [] ↔ text = "" := by
  have empty : octets "" = [] := octets_eq_flatMap ""
  rw [← empty, octets_inj]

/-- A small octet stands for a character of its own, never for a part of a
longer one. -/
theorem eq_of_mem_encode {c : Char} {b : UInt8}
    (among : b ∈ String.utf8EncodeChar c) (small : b < 0x80) :
    c = Char.ofNat b.toNat := by
  have itself : Char.ofNat c.val.toNat = c := Char.ofNat_toNat c
  have small : b.toNat < 0x80 := small
  rw [String.utf8EncodeChar] at among
  generalize c.val.toNat = n at itself among
  subst itself
  have later : ∀ {k}, b = UInt8.ofNat k → 0x80 ≤ k → k < 0x100 →
      Char.ofNat n = Char.ofNat b.toNat := by
    rintro k rfl above below
    rw [UInt8.toNat_ofNat', Nat.mod_eq_of_lt below] at small
    exact absurd above (Nat.not_le_of_lt small)
  split at among
  · next one =>
    obtain rfl := List.mem_singleton.mp among
    rw [UInt8.toNat_ofNat', Nat.mod_eq_of_lt (by omega)]
  split at among
  · simp only [List.mem_cons, List.not_mem_nil, or_false] at among
    rcases among with same | same <;>
      exact later same (by omega) (by omega)
  split at among
  · simp only [List.mem_cons, List.not_mem_nil, or_false] at among
    rcases among with same | same | same <;>
      exact later same (by omega) (by omega)
  · simp only [List.mem_cons, List.not_mem_nil, or_false] at among
    rcases among with same | same | same | same <;>
      exact later same (by omega) (by omega)

end InterfaceManager.Text

import InterfaceManager.Address.Parser
import InterfaceManager.Address.Printer
import InterfaceManager.Proofs.Text.Digits

/-!
# Addresses survive their texts

Reading the text of an address gives the address back.  For IPv4 this is the
reading of four octets.  For IPv6 there are three cases, as there are three
forms of the text: the groups as they are, the groups with a run of zeros left
out, and the form that ends in an IPv4 address.  A run of zeros is found again
because there is exactly one place with two adjacent colons.
-/

namespace InterfaceManager

open Text

theorem octet?_toDigits (octet : UInt8) :
    octet? (Nat.toDigits 10 octet.toNat) = some octet := by
  have small : octet.toNat < 256 := octet.toNat_lt
  have short : (Nat.toDigits 10 octet.toNat).length ≤ 3 :=
    (Nat.length_toDigits_le_iff (by omega) (by omega)).mpr (by omega)
  have proper : (Nat.toDigits 10 octet.toNat).head? ≠ some '0' ∨
      (Nat.toDigits 10 octet.toNat).length = 1 := by
    rcases Nat.eq_zero_or_pos octet.toNat with zero | positive
    · exact Or.inr (by simp [zero])
    · exact Or.inl (head?_toDigits_ne_zero (by omega) positive)
  rw [octet?, if_pos ⟨short, proper⟩,
    natOfDigits?_toDigits (by omega) (by omega)]
  simp [small]

/-- The text of an IPv4 address reads back as the address. -/
theorem Ipv4.parse?_render (a : Ipv4) : Ipv4.parse? a.render = some a := by
  have undotted : ∀ n, '.' ∉ Nat.toDigits 10 n := fun n =>
    not_mem_toDigits (by omega) (by omega) (by decide)
  rw [Ipv4.parse?, Ipv4.render, pieces_joined (by simp) (by simp [undotted])]
  simp [octet?_toDigits]

theorem digit_of_octet? {p : List Char} {octet : UInt8}
    (reads : octet? p = some octet) {c : Char} (among : c ∈ p) :
    (digitValue? 10 c).isSome := by
  rw [octet?] at reads
  split at reads
  · obtain ⟨n, number, -⟩ := Option.bind_eq_some_iff.mp reads
    rw [natOfDigits?] at number
    split at number
    · cases number
    · exact isSome_digitValue?_of_mem number among
  · cases reads

/-- What reads as an IPv4 address consists of decimal digits and dots. -/
theorem Ipv4.dot_or_digit {cs : List Char} {a : Ipv4}
    (reads : Ipv4.parse? cs = some a) {c : Char} (among : c ∈ cs) :
    c = '.' ∨ (digitValue? 10 c).isSome := by
  rw [← joined_pieces '.' cs] at among
  rw [Ipv4.parse?] at reads
  split at reads
  · next p q r s cut =>
    simp only [Option.bind_eq_bind, Option.bind_eq_some_iff] at reads
    obtain ⟨o₁, first, o₂, second, o₃, third, o₄, fourth, -⟩ := reads
    simp only [cut, joined, List.mem_append, List.mem_cons] at among
    rcases among with among | rfl | among | rfl | among | rfl | among
    · exact Or.inr (digit_of_octet? first among)
    · exact Or.inl rfl
    · exact Or.inr (digit_of_octet? second among)
    · exact Or.inl rfl
    · exact Or.inr (digit_of_octet? third among)
    · exact Or.inl rfl
    · exact Or.inr (digit_of_octet? fourth among)
  · cases reads

/-- A text with a colon is no IPv4 address. -/
theorem Ipv4.parse?_of_colon {cs : List Char} (colon : ':' ∈ cs) :
    Ipv4.parse? cs = none := by
  rcases reads : Ipv4.parse? cs with _ | a
  · rfl
  · exact absurd (Ipv4.dot_or_digit reads colon) (by decide)

/-- An IPv4 address is held by two groups. -/
theorem Ipv4.ofGroups_groups (high low : UInt16) :
    (Ipv4.ofGroups high low).groups = [high, low] := by
  have joins : ∀ g : UInt16,
      (g / 256).toUInt8.toUInt16 * 256 + g.toUInt8.toUInt16 = g := by
    intro g
    apply UInt16.toNat_inj.mp
    have := g.toNat_lt
    simp only [UInt16.toNat_add, UInt16.toNat_mul, UInt8.toNat_toUInt16,
      UInt16.toNat_toUInt8, UInt16.toNat_div, UInt16.reduceToNat]
    omega
  rw [Ipv4.groups, Ipv4.ofGroups, joins, joins]

/-! ## Groups -/

theorem group?_toDigits (group : UInt16) :
    group? (Nat.toDigits 16 group.toNat) = some group := by
  have small : group.toNat < 65536 := group.toNat_lt
  have short : (Nat.toDigits 16 group.toNat).length ≤ 4 :=
    (Nat.length_toDigits_le_iff (by omega) (by omega)).mpr (by omega)
  rw [group?, if_pos short, natOfDigits?_toDigits (by omega) (by omega)]
  simp

/-- No group is written as nothing or with a colon. -/
theorem proper_groups (gs : List UInt16) :
    ∀ p ∈ gs.map fun g => Nat.toDigits 16 g.toNat, p ≠ [] ∧ ':' ∉ p := by
  intro p among
  obtain ⟨g, -, rfl⟩ := List.mem_map.mp among
  exact ⟨Nat.toDigits_ne_nil,
    not_mem_toDigits (by omega) (by omega) (by decide)⟩

theorem groupsOfPieces?_map (dotted : Bool) (gs : List UInt16) :
    groupsOfPieces? dotted (gs.map fun g => Nat.toDigits 16 g.toNat) =
      some gs := by
  induction gs with
  | nil => rfl
  | cons g gs ih =>
    cases gs with
    | nil => simp [groupsOfPieces?, group?_toDigits]
    | cons h hs =>
      simp only [List.map_cons] at ih ⊢
      simp [groupsOfPieces?, group?_toDigits, ih]

/-- Groups written between colons are read as those groups. -/
theorem groups?_renderGroups (dotted : Bool) (gs : List UInt16) :
    groups? dotted (renderGroups gs) = some gs := by
  rcases gs with _ | ⟨g, gs⟩
  · rfl
  · have occupied : renderGroups (g :: gs) ≠ [] := by
      cases gs <;> simp [renderGroups, joined, Nat.toDigits_ne_nil]
    have apart : ∀ p ∈ (g :: gs).map fun g => Nat.toDigits 16 g.toNat,
        ':' ∉ p := fun p among => (proper_groups _ p among).2
    rw [groups?, if_neg occupied, renderGroups,
      pieces_joined (by simp) apart, groupsOfPieces?_map]

theorem cutDoubled?_renderGroups (gs : List UInt16) (cs : List Char) :
    cutDoubled? ':' (renderGroups gs ++ cs) =
      (cutDoubled? ':' cs).map fun (front, back) =>
        (renderGroups gs ++ front, back) :=
  cutDoubled?_joined (proper_groups gs) cs

theorem take_leadingZeros (gs : List UInt16) :
    gs.take (leadingZeros gs) = List.replicate (leadingZeros gs) 0 := by
  induction gs with
  | nil => rfl
  | cons g gs ih =>
    by_cases zero : g = 0
    · subst zero
      simp [leadingZeros, List.replicate_succ] at ih ⊢
      exact ih
    · simp [leadingZeros, zero]

/-- The run that is left out consists of zeros. -/
theorem longestZeroRun_zeros (gs : List UInt16) (bound : Nat) :
    (gs.drop (longestZeroRun gs bound).1).take (longestZeroRun gs bound).2 =
      List.replicate (longestZeroRun gs bound).2 0 := by
  induction bound with
  | zero => rfl
  | succ bound ih =>
    simp only [longestZeroRun]
    split
    · exact take_leadingZeros _
    · exact ih

/-- Putting the zeros back between what stands before and what stands after
the run gives the groups. -/
theorem longestZeroRun_restores {gs : List UInt16} {bound start length : Nat}
    (run : longestZeroRun gs bound = (start, length)) :
    gs.take start ++ List.replicate length 0 ++ gs.drop (start + length) =
      gs := by
  have zeros := longestZeroRun_zeros gs bound
  rw [run] at zeros
  rw [← zeros, List.append_assoc, ← List.drop_drop,
    List.take_append_drop, List.take_append_drop]

/-! ## IPv6 -/

theorem Ipv6.ofGroups?_eq {gs : List UInt16} (eight : gs.length = 8) :
    Ipv6.ofGroups? gs = some ⟨gs, eight⟩ := dif_pos eight

theorem Ipv6.parse?_compressed {gs : List UInt16} (eight : gs.length = 8) :
    Ipv6.parse? (renderCompressed gs) = some ⟨gs, eight⟩ := by
  rcases run : longestZeroRun gs gs.length with ⟨start, length⟩
  have restores := longestZeroRun_restores run
  simp only [renderCompressed, run]
  split
  · next long =>
    have total : (gs.take start).length + length +
        (gs.drop (start + length)).length = 8 := by
      have lengths := congrArg List.length restores
      simpa only [List.length_append, List.length_replicate, eight]
        using lengths
    have left : 8 - (gs.take start).length -
        (gs.drop (start + length)).length = length := by
      omega
    have cut := cutDoubled?_renderGroups (gs.take start)
      (':' :: ':' :: renderGroups (gs.drop (start + length)))
    rw [cutDoubled?, if_pos ⟨rfl, rfl⟩] at cut
    simp only [Ipv6.parse?, cut, Option.map_some, List.append_nil,
      groups?_renderGroups, Option.bind_eq_bind, Option.bind_some, left,
      restores, Ipv6.ofGroups?_eq eight]
    rw [if_pos (by omega)]
  · have cut := cutDoubled?_renderGroups gs []
    simp only [List.append_nil, cutDoubled?, Option.map_none] at cut
    simp [Ipv6.parse?, cut, groups?_renderGroups, Ipv6.ofGroups?_eq eight]

/-- An IPv4 address is no group. -/
theorem group?_render (a : Ipv4) : group? a.render = none := by
  have dotted : '.' ∈ a.render := by simp [Ipv4.render, joined]
  rw [group?]
  split
  · rcases reads : natOfDigits? 16 a.render with _ | n
    · rfl
    · rw [natOfDigits?] at reads
      split at reads
      · cases reads
      · exact absurd (isSome_digitValue?_of_mem reads dotted) (by decide)
  · rfl

theorem Ipv6.parse?_mapped (high low : UInt16) :
    Ipv6.parse? (':' :: ':' :: renderGroups [0xffff] ++
      ':' :: (Ipv4.ofGroups high low).render) =
      some ⟨[0, 0, 0, 0, 0, 0xffff, high, low], rfl⟩ := by
  have mark : group? (Nat.toDigits 16 65535) = some 0xffff :=
    group?_toDigits 0xffff
  have uncut : ':' ∉ (Ipv4.ofGroups high low).render := by
    intro colon
    have none := Ipv4.parse?_of_colon colon
    rw [Ipv4.parse?_render] at none
    cases none
  have back : groups? true (renderGroups [0xffff] ++
      ':' :: (Ipv4.ofGroups high low).render) = some [0xffff, high, low] := by
    rw [groups?, if_neg (by simp)]
    simp only [renderGroups, List.map_cons, List.map_nil, joined]
    rw [pieces_append (proper_groups [0xffff] _ (by simp)).2,
      pieces_of_not_mem uncut]
    simp [groupsOfPieces?, mark, group?_render, Ipv4.parse?_render,
      Ipv4.ofGroups_groups]
  have front : groups? false [] = some [] := rfl
  simp only [List.cons_append, Ipv6.parse?, cutDoubled?, and_self, if_true,
    front, back, Option.bind_eq_bind, Option.bind_some]
  rfl

/-- The text of an IPv6 address reads back as the address. -/
theorem Ipv6.parse?_render (a : Ipv6) : Ipv6.parse? a.render = some a := by
  obtain ⟨gs, eight⟩ := a
  rw [Ipv6.render]
  split
  · next high low same =>
    subst same
    exact Ipv6.parse?_mapped high low
  · exact Ipv6.parse?_compressed eight

/-- The text of an IPv6 address has a colon. -/
theorem Ipv6.colon_mem_render (a : Ipv6) : ':' ∈ a.render := by
  obtain ⟨gs, eight⟩ := a
  rw [Ipv6.render]
  split
  · simp
  · simp only [renderCompressed]
    split
    · simp
    · rcases gs with _ | ⟨g, _ | ⟨h, hs⟩⟩
      · cases eight
      · cases eight
      · simp [renderGroups, joined]

/-- The text of an address reads back as the address. -/
theorem Address.parse?_render (a : Address) :
    Address.parse? a.render = some a := by
  cases a with
  | v4 a => simp [Address.parse?, Address.render, Ipv4.parse?_render]
  | v6 a =>
    simp [Address.parse?, Address.render, Ipv6.parse?_render,
      Ipv4.parse?_of_colon a.colon_mem_render]

/-- The text of an address has no slash. -/
theorem Address.slash_not_mem_render (a : Address) : '/' ∉ a.render := by
  have octets : ∀ a : Ipv4, '/' ∉ a.render := fun a slash =>
    absurd (Ipv4.dot_or_digit a.parse?_render slash) (by decide)
  have groups : ∀ gs, '/' ∉ renderGroups gs := by
    intro gs slash
    rcases eq_or_mem_of_mem_joined slash with same | ⟨p, among, inside⟩
    · exact absurd same (by decide)
    · obtain ⟨g, -, rfl⟩ := List.mem_map.mp among
      exact not_mem_toDigits (by omega) (by omega) (by decide) inside
  cases a with
  | v4 a => exact octets a
  | v6 a =>
    rw [Address.render, Ipv6.render]
    split
    · simp [groups, octets]
    · simp only [renderCompressed]
      split <;> simp [groups]

end InterfaceManager

import InterfaceManager.Proofs.Cidr

/-!
# The grammar of addresses with a prefix length

Which texts are read, and as what: an address alone, or an address, a slash
and a decimal number up to the width of the address.  The relation `Written`
says this without the reader.  A text is cut at its first slash, so that a
second slash is left for the number, where it is no digit.
-/

namespace InterfaceManager

open Text

/-- The characters of which addresses of either family are written. -/
def IsAddressChar (c : Char) : Prop :=
  c.isHexDigit = true ∨ c = ':' ∨ c = '.'

instance (c : Char) : Decidable (IsAddressChar c) :=
  inferInstanceAs (Decidable (_ ∨ _))

theorem isHexDigit_of_group? {p : List Char} {g : UInt16}
    (reads : group? p = some g) {c : Char} (among : c ∈ p) :
    c.isHexDigit = true := by
  rw [group?] at reads
  split at reads
  · obtain ⟨n, number, -⟩ := Option.map_eq_some_iff.mp reads
    rw [natOfDigits?] at number
    split at number
    · cases number
    · exact isHexDigit_of_digitValue? (isSome_digitValue?_of_mem number among)
  · cases reads

theorem Ipv4.isAddressChar {cs : List Char} {a : Ipv4}
    (reads : Ipv4.parse? cs = some a) {c : Char} (among : c ∈ cs) :
    IsAddressChar c := by
  rcases Ipv4.dot_or_digit reads among with dot | digit
  · exact Or.inr (Or.inr dot)
  · rw [digitValue?_ten] at digit
    split at digit
    · next decimal => exact Or.inl (by simp [Char.isHexDigit, decimal])
    · cases digit

theorem isAddressChar_of_groupsOfPieces? {dotted : Bool}
    {ps : List (List Char)} {gs : List UInt16}
    (reads : groupsOfPieces? dotted ps = some gs) :
    ∀ p ∈ ps, ∀ c ∈ p, IsAddressChar c := by
  induction ps generalizing gs with
  | nil => simp
  | cons p ps ih =>
    intro q among c inside
    cases ps with
    | nil =>
      rw [List.mem_singleton.mp among] at inside
      rw [groupsOfPieces?] at reads
      split at reads
      · next g isGroup => exact Or.inl (isHexDigit_of_group? isGroup inside)
      · split at reads
        · obtain ⟨a, isIpv4, -⟩ := Option.map_eq_some_iff.mp reads
          exact Ipv4.isAddressChar isIpv4 inside
        · cases reads
    | cons q ps =>
      simp only [groupsOfPieces?, Option.bind_eq_bind,
        Option.bind_eq_some_iff] at reads
      obtain ⟨g, isGroup, rest, areGroups, -⟩ := reads
      rcases List.mem_cons.mp among with rfl | later
      · exact Or.inl (isHexDigit_of_group? isGroup inside)
      · exact ih areGroups _ later c inside

theorem isAddressChar_of_groups? {dotted : Bool} {cs : List Char}
    {gs : List UInt16} (reads : groups? dotted cs = some gs) :
    ∀ c ∈ cs, IsAddressChar c := by
  intro c among
  rw [groups?] at reads
  split at reads
  · next empty =>
    rw [empty] at among
    cases among
  · rw [← joined_pieces ':' cs] at among
    rcases eq_or_mem_of_mem_joined among with colon | ⟨p, piece, inside⟩
    · exact Or.inr (Or.inl colon)
    · exact isAddressChar_of_groupsOfPieces? reads p piece c inside

theorem Ipv6.isAddressChar {cs : List Char} {a : Ipv6}
    (reads : Ipv6.parse? cs = some a) : ∀ c ∈ cs, IsAddressChar c := by
  rw [Ipv6.parse?] at reads
  split at reads
  · obtain ⟨gs, areGroups, -⟩ := Option.bind_eq_some_iff.mp reads
    exact isAddressChar_of_groups? areGroups
  · next front back cut =>
    simp only [Option.bind_eq_bind, Option.bind_eq_some_iff] at reads
    obtain ⟨fs, before, bs, after, -⟩ := reads
    rw [eq_of_cutDoubled? cut]
    intro c among
    simp only [List.mem_append, List.mem_cons] at among
    rcases among with among | colon | colon | among
    · exact isAddressChar_of_groups? before c among
    · exact Or.inr (Or.inl colon)
    · exact Or.inr (Or.inl colon)
    · exact isAddressChar_of_groups? after c among

/-- What reads as an address consists of hexadecimal digits, colons and
dots. -/
theorem Address.isAddressChar {cs : List Char} {a : Address}
    (reads : Address.parse? cs = some a) : ∀ c ∈ cs, IsAddressChar c := by
  intro c among
  rw [Address.parse?] at reads
  split at reads
  · next a isIpv4 => exact Ipv4.isAddressChar isIpv4 among
  · obtain ⟨a, isIpv6, -⟩ := Option.map_eq_some_iff.mp reads
    exact Ipv6.isAddressChar isIpv6 c among

namespace Cidr

/-! ## The grammar -/

/-- The texts of an address and a prefix length: the address alone, which
stands for its whole width, or the address, a slash and a number up to the
width. -/
inductive Written : List Char → Address → Nat → Prop
  | whole {cs : List Char} {a : Address} (unsized : '/' ∉ cs)
      (address : Address.parse? cs = some a) : Written cs a a.width
  | sized {front back : List Char} {a : Address} {n : Nat}
      (first : '/' ∉ front) (address : Address.parse? front = some a)
      (number : WritesNat back n) (within : n ≤ a.width) :
      Written (front ++ '/' :: back) a n

theorem Written.within {cs : List Char} {a : Address} {n : Nat}
    (written : Written cs a n) : n ≤ a.width := by
  cases written with
  | whole => exact Nat.le_refl _
  | sized _ _ _ within => exact within

theorem width_le (a : Address) : a.width ≤ 255 := by
  cases a <;> simp [Address.width]

/-- A text with a slash is written if the parts before and after the first
one are. -/
theorem written_sized_iff {front back : List Char} {a : Address} {n : Nat}
    (first : '/' ∉ front) :
    Written (front ++ '/' :: back) a n ↔
      Address.parse? front = some a ∧ WritesNat back n ∧ n ≤ a.width := by
  constructor
  · generalize text : front ++ '/' :: back = cs
    intro written
    cases written with
    | whole unsized _ => exact absurd (text ▸ by simp) unsized
    | sized other address number within =>
      have cut := cutFirst?_append first back
      rw [text, cutFirst?_append other] at cut
      cases cut
      exact ⟨address, number, within⟩
  · rintro ⟨address, number, within⟩
    exact .sized first address number within

/-- A text without a slash is written if it is an address, which is then
whole. -/
theorem written_whole_iff {cs : List Char} {a : Address} {n : Nat}
    (unsized : '/' ∉ cs) :
    Written cs a n ↔ Address.parse? cs = some a ∧ n = a.width := by
  constructor
  · intro written
    cases written with
    | whole _ address => exact ⟨address, rfl⟩
    | sized => exact absurd (by simp) unsized
  · rintro ⟨address, rfl⟩
    exact .whole unsized address

/-- The reader accepts what is written, as what it is. -/
theorem read_eq_ok_iff {cs : List Char} {c : Cidr} :
    read cs = .ok c ↔ Written cs c.address c.length := by
  rw [read]
  split
  · next uncut =>
    rw [written_whole_iff (cutFirst?_eq_none_iff.mp uncut)]
    split
    · next unread => simp [unread]
    · next a address =>
      have same : c = host a ↔ a = c.address ∧ c.length = c.address.width := by
        obtain ⟨b, length, within⟩ := c
        simp only [host, mk.injEq]
        constructor
        · rintro ⟨rfl, rfl⟩
          exact ⟨rfl, rfl⟩
        · rintro ⟨rfl, rfl⟩
          exact ⟨rfl, rfl⟩
      simp [address, same, eq_comm (a := host a)]
  · next front back cut =>
    obtain ⟨rfl, first⟩ := cutFirst?_eq_some_iff.mp cut
    rw [written_sized_iff first]
    split
    · next unread => simp [unread]
    · next a address =>
      -- A number within the width is within an octet, so it has been read.
      simp only [address, Option.some.injEq]
      split
      · next fault number =>
        simp only [reduceCtorEq, false_iff]
        rintro ⟨-, writes, within⟩
        have bounded := Nat.le_trans within (width_le c.address)
        rw [boundedNat_eq_ok_iff.mpr ⟨writes, bounded⟩] at number
        cases number
      · next n number =>
        rw [make_eq_ok_iff]
        constructor
        · rintro ⟨rfl, rfl⟩
          exact ⟨rfl, (boundedNat_eq_ok_iff.mp number).1, c.length_le⟩
        · rintro ⟨same, writes, within⟩
          have bounded := Nat.le_trans within (width_le c.address)
          rw [boundedNat_eq_ok_iff.mpr ⟨writes, bounded⟩] at number
          exact ⟨same.symm, Except.ok.inj number⟩

/-- A text that is not read is an invalid configuration. -/
theorem read_error {cs : List Char} {e : Error} (refused : read cs = .error e) :
    ∃ message, e = .invalidConfig message := by
  rw [read] at refused
  split at refused
  · split at refused
    · exact ⟨_, (Except.error.inj refused).symm⟩
    · cases refused
  · split at refused
    · exact ⟨_, (Except.error.inj refused).symm⟩
    · split at refused
      · exact ⟨_, (Except.error.inj refused).symm⟩
      · rw [make] at refused
        split at refused
        · cases refused
        · exact ⟨_, (Except.error.inj refused).symm⟩

/-! ## Flaws -/

/-- Ways in which a text fails to be written. -/
inductive Flawed : List Char → Prop
  | noLength (front : List Char) : Flawed (front ++ ['/'])
  | onlySign (front : List Char) : Flawed (front ++ ['/', '+'])
  | secondSlash (front middle back : List Char) :
      Flawed (front ++ '/' :: (middle ++ '/' :: back))
  /-- A blank before, within or after the text, or the like. -/
  | foreign {cs : List Char} {c : Char} (among : c ∈ cs)
      (other : ¬ IsAddressChar c) (noSlash : c ≠ '/') (noSign : c ≠ '+') :
      Flawed cs
  /-- The number may be of any size. -/
  | tooLong {front back : List Char} {a : Address} {n : Nat}
      (address : Address.parse? front = some a) (number : WritesNat back n)
      (beyond : a.width < n) : Flawed (front ++ '/' :: back)

/-- A text that is written with a slash ends in a digit. -/
theorem Written.ends_in_digit {cs : List Char} {a : Address} {n : Nat}
    (written : Written cs a n) (slash : '/' ∈ cs) {last : Char}
    (ends : cs.getLast? = some last) : last.isDigit = true := by
  cases written with
  | whole unsized _ => exact absurd slash unsized
  | sized _ _ number _ =>
    have after : ∀ {cs ds : List Char}, ds ≠ [] →
        (cs ++ ds).getLast? = some last → last ∈ ds := by
      intro cs ds occupied ends
      rw [List.getLast?_append, List.getLast?_eq_some_getLast occupied] at ends
      exact Option.some.inj ends ▸ List.getLast_mem occupied
    cases number with
    | digits some digits =>
      rw [List.append_cons] at ends
      exact digits last (after some ends)
    | plus some digits =>
      rw [List.append_cons, List.append_cons] at ends
      exact digits last (after some ends)

/-- A text with a flaw is not written. -/
theorem Flawed.not_written {cs : List Char} (flawed : Flawed cs)
    (a : Address) (n : Nat) : ¬ Written cs a n := by
  intro written
  cases flawed with
  | noLength front =>
    have digit : '/'.isDigit = true :=
      written.ends_in_digit (by simp) List.getLast?_concat
    cases digit
  | onlySign front =>
    have digit : '+'.isDigit = true :=
      written.ends_in_digit (by simp) (by simp)
    cases digit
  | secondSlash front middle back =>
    generalize text : front ++ '/' :: (middle ++ '/' :: back) = cs at written
    cases written with
    | whole unsized _ => exact unsized (text ▸ by simp)
    | @sized first rest _ _ free _ number _ =>
      have onlyDigits : '/' ∉ rest := fun slash => by
        rcases number.digit_or_plus _ slash with digit | sign
        · cases digit
        · cases sign
      -- Only one slash is written, but two are there.
      have counts := congrArg (List.count '/') text
      simp [List.count_eq_zero.mpr free, List.count_eq_zero.mpr onlyDigits]
        at counts
      omega
  | @foreign _ c among other noSlash noSign =>
    cases written with
    | whole _ address => exact other (Address.isAddressChar address c among)
    | sized _ address number _ =>
      simp only [List.mem_append, List.mem_cons] at among
      rcases among with before | slash | after
      · exact other (Address.isAddressChar address c before)
      · exact noSlash slash
      · rcases number.digit_or_plus c after with digit | sign
        · exact other (Or.inl (by simp [Char.isHexDigit, digit]))
        · exact noSign sign
  | @tooLong front back b m address number beyond =>
    have first : '/' ∉ front := fun slash =>
      absurd (Address.isAddressChar address _ slash) (by decide)
    obtain ⟨same, other, within⟩ := (written_sized_iff first).mp written
    rw [address] at same
    cases same
    rw [number.unique other] at beyond
    omega

/-! ## Both ways -/

/-- A text reads as an address and a length exactly if these are what is
written.  It is refused as an invalid configuration exactly if nothing is
written, and that is so whenever it has a flaw. -/
theorem parse_follows_grammar (text : String) :
    (∀ address length,
      (∃ c, parse text = .ok c ∧ c.address = address ∧ c.length = length) ↔
        Written text.toList address length) ∧
    ((∃ message, parse text = .error (.invalidConfig message)) ↔
      ∀ address length, ¬ Written text.toList address length) ∧
    (Flawed text.toList →
      ∃ message, parse text = .error (.invalidConfig message)) := by
  have accepts : ∀ address length,
      (∃ c, parse text = .ok c ∧ c.address = address ∧ c.length = length) ↔
        Written text.toList address length := by
    intro address length
    constructor
    · rintro ⟨c, reads, rfl, rfl⟩
      exact read_eq_ok_iff.mp reads
    · intro written
      exact ⟨⟨address, length, written.within⟩, read_eq_ok_iff.mpr written,
        rfl, rfl⟩
  have refuses : (∃ message, parse text = .error (.invalidConfig message)) ↔
      ∀ address length, ¬ Written text.toList address length := by
    constructor
    · rintro ⟨message, refused⟩ address length written
      obtain ⟨c, reads, -⟩ := (accepts address length).mpr written
      rw [reads] at refused
      cases refused
    · intro unwritten
      rcases outcome : parse text with e | c
      · obtain ⟨message, rfl⟩ := read_error outcome
        exact ⟨message, rfl⟩
      · exact absurd (read_eq_ok_iff.mp outcome) (unwritten _ _)
  exact ⟨accepts, refuses, fun flawed => refuses.mpr flawed.not_written⟩

/-- A sign and leading zeros are read; a blank before the text and a number
beyond eight bits are not. -/
theorem grammar_on_signed_text :
    (∃ c, parse "10.0.0.1/+008" = .ok c ∧
      c.address = .v4 ⟨10, 0, 0, 1⟩ ∧ c.length = 8) ∧
    (∃ message, parse " 10.0.0.1/8" = .error (.invalidConfig message)) ∧
    (∃ message, parse "::1/256" = .error (.invalidConfig message)) := by
  have address : Address.parse? "10.0.0.1".toList =
      some (.v4 ⟨10, 0, 0, 1⟩) := by decide +kernel
  have loopback : Address.parse? "::1".toList =
      some (.v6 ⟨[0, 0, 0, 0, 0, 0, 0, 1], rfl⟩) := by decide +kernel
  have written : Written "10.0.0.1/+008".toList (.v4 ⟨10, 0, 0, 1⟩) 8 :=
    @Written.sized "10.0.0.1".toList _ _ _ (by decide) address
      (@WritesNat.plus "008".toList (by decide) (by simp [Char.isDigit]))
      (by decide)
  have blank : Flawed " 10.0.0.1/8".toList :=
    .foreign (c := ' ') (by decide) (by decide) (by decide) (by decide)
  have long : Flawed "::1/256".toList :=
    @Flawed.tooLong "::1".toList _ _ _ loopback
      (@WritesNat.digits "256".toList (by decide) (by simp [Char.isDigit]))
      (by decide)
  exact ⟨((parse_follows_grammar _).1 _ _).mpr written,
    (parse_follows_grammar _).2.2 blank, (parse_follows_grammar _).2.2 long⟩

end Cidr

end InterfaceManager

import InterfaceManager.Cidr.Codec
import InterfaceManager.Proofs.Address.RoundTrip
import InterfaceManager.Proofs.Json.RoundTrip

/-!
# Addresses with a prefix length survive their texts

Reading the text of an address with a prefix length gives both back, and so
does reading the JSON form, as a value and as a document.  However such an
address was obtained, its length is within the width of its family, and its
own text is read as what it is the text of.
-/

namespace InterfaceManager.Cidr

open Text

/-- The text of an address with a prefix length reads back as both. -/
theorem read_render (c : Cidr) : read c.render = .ok c := by
  obtain ⟨address, length, within⟩ := c
  have bounded : length ≤ 255 := by
    cases address <;> simp only [Address.width] at within <;> omega
  rw [render, read, cutFirst?_append address.slash_not_mem_render]
  simp only [Address.parse?_render, boundedNat_toDigits bounded]
  exact dif_pos within

theorem parse_toString (c : Cidr) : parse (toString c) = .ok c := by
  have text : (toString c).toList = c.render := String.toList_ofList
  rw [parse, text, read_render]

/-- The JSON form reads back. -/
theorem ofJson_toJson (c : Cidr) : ofJson c.toJson = .ok c := by
  simp only [ofJson, toJson, Json.asText, bind, Except.bind, parse_toString]

/-- The document with the JSON form reads back as that form. -/
theorem parse?_render_toJson (c : Cidr) :
    Json.parse? c.toJson.render = some c.toJson :=
  Json.parse?_render c.toJson trivial

/-- What is made of an address and a length has these, and is made exactly
when the length is within the width. -/
theorem make_eq_ok_iff {address : Address} {length : Nat} {c : Cidr} :
    make address length = .ok c ↔
      c.address = address ∧ c.length = length := by
  rw [make]
  constructor
  · intro made
    split at made
    · cases made
      exact ⟨rfl, rfl⟩
    · cases made
  · rintro ⟨rfl, rfl⟩
    exact dif_pos c.length_le

/-- The prefix length of an address of either family: at most 32 or 128. -/
def WithinFamily (c : Cidr) : Prop :=
  match c.address with
  | .v4 _ => c.length ≤ 32
  | .v6 _ => c.length ≤ 128

theorem withinFamily (c : Cidr) : c.WithinFamily := by
  obtain ⟨address, length, within⟩ := c
  cases address <;> exact within

/-- Every address with a prefix length up to its width survives its text and
its JSON form, as a value and as a document.  Conversely whatever is made, read
or decoded has a length within its family, and the text of whatever was read is
read as itself. -/
theorem survives_text :
    (∀ (address : Address) (length : Nat), length ≤ address.width →
      ∃ c, make address length = .ok c ∧
        c.address = address ∧ c.length = length ∧
        parse (toString c) = .ok c ∧
        ofJson c.toJson = .ok c ∧
        (Json.parse? c.toJson.render).map ofJson = some (.ok c)) ∧
    (∀ address length c, make address length = .ok c → c.WithinFamily) ∧
    (∀ address, (host address).WithinFamily ∧
      (host address).address = address ∧
      (host address).length = address.width) ∧
    (∀ text c, parse text = .ok c → c.WithinFamily ∧
      (parse (toString c)).map toString = .ok (toString c)) ∧
    (∀ v c, ofJson v = .ok c → c.WithinFamily) := by
  refine ⟨fun address length within => ?_, fun _ _ c _ => c.withinFamily,
    fun address => ⟨withinFamily _, rfl, rfl⟩,
    fun _ c _ => ⟨c.withinFamily, ?_⟩, fun _ c _ => c.withinFamily⟩
  · let c : Cidr := ⟨address, length, within⟩
    have document : (Json.parse? c.toJson.render).map ofJson =
        some (.ok c) := by
      rw [parse?_render_toJson, Option.map_some, ofJson_toJson]
    exact ⟨c, make_eq_ok_iff.mpr ⟨rfl, rfl⟩, rfl, rfl, c.parse_toString,
      c.ofJson_toJson, document⟩
  · rw [parse_toString]
    rfl

/-- An IPv4-mapped address with a prefix length. -/
def mapped : Cidr where
  address := .v6 ⟨[0, 0, 0, 0, 0, 0xffff, 0xa00, 1], rfl⟩
  length := 96
  length_le := by decide

theorem mapped_survives_text :
    toString mapped = "::ffff:10.0.0.1/96" ∧
    mapped.length ≤ mapped.address.width ∧
    parse "::ffff:10.0.0.1/96" = .ok mapped ∧
    ofJson (.string "::ffff:10.0.0.1/96") = .ok mapped := by
  have text : toString mapped = "::ffff:10.0.0.1/96" := by decide +kernel
  obtain ⟨c, made, address, length, read, decoded, -⟩ :=
    survives_text.1 mapped.address mapped.length mapped.length_le
  have same : c = mapped := by
    cases c
    cases address
    cases length
    rfl
  rw [same] at read decoded
  rw [toJson] at decoded
  rw [text] at read decoded
  exact ⟨text, mapped.length_le, read, decoded⟩

end InterfaceManager.Cidr

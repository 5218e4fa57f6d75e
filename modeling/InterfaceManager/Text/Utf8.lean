/-!
# Texts from raw octets

Octets that come from outside need not be UTF-8.  Decoding keeps every
well-formed character and puts one replacement character for each longest
stretch of octets that starts a character and cannot be continued to one.
-/

namespace InterfaceManager.Text

/-- An octet string, such as the name of a file or of an interface. -/
abbrev Octets := List UInt8

def octets (text : String) : Octets := text.toUTF8.toList

/-- The octets that may follow a first octet: the range of the second one
and the number of octets after it, or `none` for an octet that starts no
character of more than one octet. -/
def continuation? (first : UInt8) : Option (UInt8 × UInt8 × Nat) :=
  if 0xc2 ≤ first ∧ first ≤ 0xdf then some (0x80, 0xbf, 0)
  else if first = 0xe0 then some (0xa0, 0xbf, 1)
  else if first = 0xed then some (0x80, 0x9f, 1)
  else if 0xe1 ≤ first ∧ first ≤ 0xef then some (0x80, 0xbf, 1)
  else if first = 0xf0 then some (0x90, 0xbf, 2)
  else if 0xf1 ≤ first ∧ first ≤ 0xf3 then some (0x80, 0xbf, 2)
  else if first = 0xf4 then some (0x80, 0x8f, 2)
  else none

/-- The bits that a first octet of a longer character contributes. -/
def leadBits (first : UInt8) : Nat :=
  if first < 0xe0 then first.toNat % 32
  else if first < 0xf0 then first.toNat % 16
  else first.toNat % 8

/-- A character under construction: the bits so far, the range of the next
octet and the number of octets after that one. -/
structure PartialChar where
  bits : Nat
  low : UInt8
  high : UInt8
  owed : Nat

/-- The character that stands for octets that are not UTF-8. -/
def replacement : Char := '\ufffd'

/-- Decodes octets, given the character begun by the octets before. -/
def decodeAfter : Option PartialChar → Octets → List Char
  | none, [] => []
  | some _, [] => [replacement]
  | none, b :: bs => decodeFresh b (fun begun => decodeAfter begun bs)
  | some begun, b :: bs =>
    if begun.low ≤ b ∧ b ≤ begun.high then
      let bits := begun.bits * 64 + b.toNat % 64
      match begun.owed with
      | 0 => Char.ofNat bits :: decodeAfter none bs
      | owed + 1 => decodeAfter (some ⟨bits, 0x80, 0xbf, owed⟩) bs
    else
      replacement :: decodeFresh b (fun begun => decodeAfter begun bs)
where
  /-- Decodes an octet between characters and what follows it. -/
  decodeFresh (b : UInt8) (rest : Option PartialChar → List Char) :
      List Char :=
    if b < 0x80 then Char.ofNat b.toNat :: rest none
    else
      match continuation? b with
      | some (low, high, owed) => rest (some ⟨leadBits b, low, high, owed⟩)
      | none => replacement :: rest none

/-- The text of an octet string, with a replacement character for every
stretch that is not UTF-8. -/
def decodeLossy (bytes : Octets) : String :=
  String.ofList (decodeAfter none bytes)

def decode? (bytes : Octets) : Option String :=
  let text := decodeLossy bytes
  if octets text = bytes then some text else none

end InterfaceManager.Text

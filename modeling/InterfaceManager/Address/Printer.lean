import InterfaceManager.Address.Basic
import InterfaceManager.Text.Pieces

/-!
# Texts of addresses

An IPv4 address is written as four decimal octets between dots.  An IPv6
address is written as hexadecimal groups between colons; the first of its
longest runs of at least two zero groups is left out between two colons,
and an IPv4-mapped address ends in its IPv4 form.
-/

namespace InterfaceManager

/-- Decimal octets between dots. -/
def Ipv4.render (a : Ipv4) : List Char :=
  Text.joined '.' <|
    [a.first, a.second, a.third, a.fourth].map fun octet =>
      Nat.toDigits 10 octet.toNat

/-- Hexadecimal groups between colons. -/
def renderGroups (gs : List UInt16) : List Char :=
  Text.joined ':' (gs.map fun g => Nat.toDigits 16 g.toNat)

def leadingZeros (gs : List UInt16) : Nat := (gs.takeWhile (· == 0)).length

/-- The position and the length of the first of the longest runs of zero
groups that start before `bound`. -/
def longestZeroRun (gs : List UInt16) : Nat → Nat × Nat
  | 0 => (0, 0)
  | bound + 1 =>
    let best := longestZeroRun gs bound
    let length := leadingZeros (gs.drop bound)
    if best.2 < length then (bound, length) else best

/-- The text of eight groups, with the longest run of zeros left out. -/
def renderCompressed (gs : List UInt16) : List Char :=
  let (start, length) := longestZeroRun gs gs.length
  if 2 ≤ length then
    renderGroups (gs.take start) ++ ':' :: ':'
      :: renderGroups (gs.drop (start + length))
  else renderGroups gs

/-- The text of an IPv6 address. -/
def Ipv6.render (a : Ipv6) : List Char :=
  match a.groups with
  | [0, 0, 0, 0, 0, 0xffff, high, low] =>
    ':' :: ':' :: renderGroups [0xffff] ++ ':' :: (Ipv4.ofGroups high low).render
  | gs => renderCompressed gs

namespace Address

/-- The characters of the text of an address. -/
def render : Address → List Char
  | v4 a => a.render
  | v6 a => a.render

instance : ToString Address := ⟨fun a => String.ofList a.render⟩

end Address

end InterfaceManager

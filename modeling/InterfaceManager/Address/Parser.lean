import InterfaceManager.Address.Basic
import InterfaceManager.Text.Digits
import InterfaceManager.Text.Pieces

/-!
# Addresses from texts

The grammar of addresses.  Octets have one to three decimal digits and no
needless leading zero.  Groups have one to four hexadecimal digits in
either case.  In an IPv6 address two adjacent colons stand for one or more
zero groups, at most once, and the last two groups may be written as an
IPv4 address.
-/

namespace InterfaceManager

/-- The octet written by a piece between dots. -/
def octet? (cs : List Char) : Option UInt8 :=
  if cs.length ≤ 3 ∧ (cs.head? ≠ some '0' ∨ cs.length = 1) then
    (Text.natOfDigits? 10 cs).bind fun n =>
      if n < 256 then some n.toUInt8 else none
  else none

/-- The IPv4 address written by a text. -/
def Ipv4.parse? (cs : List Char) : Option Ipv4 :=
  match Text.pieces '.' cs with
  | [p, q, r, s] => do some ⟨← octet? p, ← octet? q, ← octet? r, ← octet? s⟩
  | _ => none

/-- The group written by a piece between colons. -/
def group? (cs : List Char) : Option UInt16 :=
  if cs.length ≤ 4 then (Text.natOfDigits? 16 cs).map Nat.toUInt16 else none

/-- The groups written by pieces between colons.  With `dotted`, the last
piece may be an IPv4 address, which stands for two groups. -/
def groupsOfPieces? (dotted : Bool) : List (List Char) → Option (List UInt16)
  | [] => some []
  | [p] =>
    match group? p with
    | some g => some [g]
    | none => if dotted then (Ipv4.parse? p).map Ipv4.groups else none
  | p :: q :: ps => do
    let g ← group? p
    let gs ← groupsOfPieces? dotted (q :: ps)
    some (g :: gs)

/-- The groups written by a text, none for the empty text. -/
def groups? (dotted : Bool) (cs : List Char) : Option (List UInt16) :=
  if cs = [] then some [] else groupsOfPieces? dotted (Text.pieces ':' cs)

/-- The address with the given groups, if they are eight. -/
def Ipv6.ofGroups? (gs : List UInt16) : Option Ipv6 :=
  if h : gs.length = 8 then some ⟨gs, h⟩ else none

/-- The IPv6 address written by a text. -/
def Ipv6.parse? (cs : List Char) : Option Ipv6 :=
  match Text.cutDoubled? ':' cs with
  | none => (groups? true cs).bind Ipv6.ofGroups?
  | some (front, back) => do
    let fs ← groups? false front
    let bs ← groups? true back
    if fs.length + bs.length < 8 then
      Ipv6.ofGroups?
        (fs ++ List.replicate (8 - fs.length - bs.length) 0 ++ bs)
    else none

/-- The address written by a text. -/
def Address.parse? (cs : List Char) : Option Address :=
  match Ipv4.parse? cs with
  | some a => some (.v4 a)
  | none => (Ipv6.parse? cs).map .v6

/-- The wording for a text that is no address. -/
def Address.syntaxMessage : String := "invalid IP address syntax"

end InterfaceManager

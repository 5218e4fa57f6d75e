/-!
# Internet addresses

An IPv4 address is four octets, an IPv6 address eight groups of 16 bits.
-/

namespace InterfaceManager

/-- An IPv4 address, its octets from first to last. -/
structure Ipv4 where
  first : UInt8
  second : UInt8
  third : UInt8
  fourth : UInt8
  deriving DecidableEq, Repr, Inhabited

/-- The two groups of 16 bits that hold the octets of an IPv4 address. -/
def Ipv4.groups (a : Ipv4) : List UInt16 :=
  [a.first.toUInt16 * 256 + a.second.toUInt16,
    a.third.toUInt16 * 256 + a.fourth.toUInt16]

/-- The address whose octets are held by two groups of 16 bits. -/
def Ipv4.ofGroups (high low : UInt16) : Ipv4 :=
  ⟨(high / 256).toUInt8, high.toUInt8, (low / 256).toUInt8, low.toUInt8⟩

/-- An IPv6 address, its groups from first to last. -/
structure Ipv6 where
  groups : List UInt16
  length_groups : groups.length = 8
  deriving DecidableEq, Repr

/-- An address of either family. -/
inductive Address where
  | v4 (a : Ipv4)
  | v6 (a : Ipv6)
  deriving DecidableEq, Repr

namespace Address

/-- The number of bits of an address. -/
def width : Address → Nat
  | v4 _ => 32
  | v6 _ => 128

/-- Whether an address is of the sixth family. -/
def isV6 : Address → Bool
  | v4 _ => false
  | v6 _ => true

end Address

end InterfaceManager

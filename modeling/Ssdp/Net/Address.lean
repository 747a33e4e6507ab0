import Ssdp.Text.Decimal

/-!
# Addresses

Addresses of both versions of the Internet protocol, as the numbers that their
bits spell, and socket addresses, which add a port and, for version 6, the
scope of a link-local address.

* `V4.octets`, `V6.groups`: an address in its written parts;
* `V6.mapped?`: the version 4 address carried by an IPv4-mapped address;
* `Address.before`: the order of addresses, version 4 first.
-/

namespace Ssdp

/-- An address of version 4. -/
structure V4 where
  bits : BitVec 32
deriving DecidableEq, Repr

/-- An address of version 6. -/
structure V6 where
  bits : BitVec 128
deriving DecidableEq, Repr

namespace V4

/-- The address with these four octets. -/
def ofOctets (a b c d : Nat) : V4 :=
  ⟨BitVec.ofNat 32 (((a * 256 + b) * 256 + c) * 256 + d)⟩

/-- The four octets of the address, most significant first. -/
def octets (a : V4) : List Nat :=
  [24, 16, 8, 0].map fun shift => (a.bits >>> shift).toNat % 256

/-- The address that stands for any address, `0.0.0.0`. -/
def unspecified : V4 := ⟨0⟩

/-- Whether the address stands for any address. -/
def isUnspecified (a : V4) : Bool :=
  a == unspecified

end V4

namespace V6

/-- The address whose sixteen-bit groups are given, most significant first. -/
def ofGroups (groups : List Nat) : V6 :=
  ⟨BitVec.ofNat 128 (groups.foldl (fun n g => n * 65536 + g) 0)⟩

/-- The eight groups of the address, most significant first. -/
def groups (a : V6) : List Nat :=
  [112, 96, 80, 64, 48, 32, 16, 0].map fun shift => (a.bits >>> shift).toNat % 65536

/-- The address that stands for any address, `::`. -/
def unspecified : V6 := ⟨0⟩

/-- The loopback address, `::1`. -/
def loopback : V6 := ⟨1⟩

/-- The version 4 address that an address `::ffff:a.b.c.d` carries. -/
def mapped? (a : V6) : Option V4 :=
  if a.bits >>> 32 = 0xffff#128 then some ⟨a.bits.setWidth 32⟩ else none

/-- The address that carries a version 4 address. -/
def ofMapped (a : V4) : V6 :=
  ⟨0xffff#96 ++ a.bits⟩

end V6

/-- An address of either version. -/
inductive Address where
  | v4 (ip : V4)
  | v6 (ip : V6)
deriving DecidableEq, Repr

namespace Address

/-- Whether the address is of version 4. -/
def isV4 : Address → Bool
  | v4 _ => true
  | v6 _ => false

/-- The order of addresses: all of version 4 come before all of version 6, and
those of one version are ordered as numbers. -/
def before : Address → Address → Bool
  | v4 a, v4 b => a.bits.ult b.bits
  | v4 _, v6 _ => true
  | v6 _, v4 _ => false
  | v6 a, v6 b => a.bits.ult b.bits

end Address

/-- An address with a port. -/
inductive SocketAddress where
  | v4 (ip : V4) (port : UInt16)
  | v6 (ip : V6) (port : UInt16) (scope : UInt32)
deriving DecidableEq, Repr

namespace SocketAddress

/-- The address without its port. -/
def address : SocketAddress → Address
  | v4 ip _ => .v4 ip
  | v6 ip _ _ => .v6 ip

/-- Whether the address is of version 4. -/
def isV4 (s : SocketAddress) : Bool :=
  s.address.isV4

/-- An address with a port and no scope. -/
def ofAddress (a : Address) (port : UInt16) : SocketAddress :=
  match a with
  | .v4 ip => .v4 ip port
  | .v6 ip => .v6 ip port 0

end SocketAddress

end Ssdp

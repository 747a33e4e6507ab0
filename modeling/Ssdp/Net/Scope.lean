import Ssdp.Net.Address

/-!
# Private addresses and subnets

Some ranges of addresses never leave the local network: loopback, the private
and link-local ranges of version 4, the unique-local and link-local ranges of
version 6, and version 4 addresses carried by version 6 that are private
themselves. A subnet holds the addresses of its own version that share the
bits under its mask; an empty mask holds none.

* `Address.isPrivate`: membership in a range that stays local;
* `Subnet.contains`: membership in the subnet of an interface.
-/

namespace Ssdp

/-- Whether an address starts with the first `length` bits of `network`. -/
def inNetwork {w : Nat} (network : BitVec w) (length : Nat) (a : BitVec w) : Bool :=
  a >>> (w - length) == network >>> (w - length)

namespace V4

/-- `127.0.0.0/8`. -/
def isLoopback (a : V4) : Bool := inNetwork 0x7f000000#32 8 a.bits

/-- `10.0.0.0/8`, `172.16.0.0/12` and `192.168.0.0/16`. -/
def isSiteLocal (a : V4) : Bool :=
  inNetwork 0x0a000000#32 8 a.bits || inNetwork 0xac100000#32 12 a.bits ||
    inNetwork 0xc0a80000#32 16 a.bits

/-- `169.254.0.0/16`. -/
def isLinkLocal (a : V4) : Bool := inNetwork 0xa9fe0000#32 16 a.bits

/-- Whether the address is one that stays on the local network. -/
def isPrivate (a : V4) : Bool :=
  a.isLoopback || a.isSiteLocal || a.isLinkLocal

end V4

namespace V6

/-- The first sixteen bits of the address. -/
def firstGroup (a : V6) : BitVec 16 := (a.bits >>> 112).setWidth 16

/-- `fc00::/7`. -/
def isUniqueLocal (a : V6) : Bool := a.firstGroup &&& 0xfe00#16 == 0xfc00#16

/-- `fe80::/10`. -/
def isLinkLocal (a : V6) : Bool := a.firstGroup &&& 0xffc0#16 == 0xfe80#16

/-- Whether the address is one that stays on the local network; an address that
carries one of version 4 is judged by it. -/
def isPrivate (a : V6) : Bool :=
  match a.mapped? with
  | some ip => ip.isPrivate
  | none => a == loopback || a.isUniqueLocal || a.isLinkLocal

end V6

/-- Whether the address is one that stays on the local network. -/
def Address.isPrivate : Address → Bool
  | v4 ip => ip.isPrivate
  | v6 ip => ip.isPrivate

/-- An address of an interface with the mask of its subnet. -/
inductive Subnet where
  | v4 (ip mask : V4)
  | v6 (ip mask : V6)
deriving DecidableEq, Repr

namespace Subnet

/-- The address of the interface in the subnet. -/
def address : Subnet → Address
  | v4 ip _ => .v4 ip
  | v6 ip _ => .v6 ip

/-- Whether an address agrees with the interface's under the mask. -/
def contains : Subnet → Address → Bool
  | v4 ip mask, .v4 a => mask.bits != 0 && a.bits &&& mask.bits == ip.bits &&& mask.bits
  | v6 ip mask, .v6 a => mask.bits != 0 && a.bits &&& mask.bits == ip.bits &&& mask.bits
  | _, _ => false

end Subnet

end Ssdp

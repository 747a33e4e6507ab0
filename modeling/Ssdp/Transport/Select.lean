import Ssdp.Net.Interface

/-!
# Selected interfaces

The addresses that senders are bound to. For version 4 a target names them
itself, or takes every address there is to bind; for version 6 it picks the
addresses whose interface it selects. Where nothing is picked, the operating
system chooses the interface, which the unspecified address stands for.

* `selectV4`, `selectV6`: the addresses, never none of them.
-/

namespace Ssdp

/-- The version 4 addresses among addresses. -/
def v4Addresses (addresses : List Address) : List V4 :=
  addresses.filterMap fun
    | .v4 ip => some ip
    | .v6 _ => none

/-- The version 6 addresses among addresses. -/
def v6Addresses (addresses : List Address) : List V6 :=
  addresses.filterMap fun
    | .v4 _ => none
    | .v6 ip => some ip

/-- The version 4 addresses to send from. -/
def selectV4 (target : Target V4) (addresses : List Address) : List V4 :=
  let picked := match target with
    | .default => []
    | .specific ip => [ip]
    | .multi ips => ascending (fun a b => a.bits.ult b.bits) ips
    | .all => v4Addresses addresses
  if picked.isEmpty then [.unspecified] else picked

/-- The version 6 addresses to send from, with the indexes of their interfaces;
an address whose interface has no index is passed over. -/
def selectV6 (target : Target Nat) (indexOf : V6 → Except IoError Nat) (addresses : List Address) :
    List (V6 × Nat) :=
  let picked := match target with
    | .default => []
    | target =>
      ((v6Addresses addresses).filterMap fun ip => ((indexOf ip).toOption).map (ip, ·)).filter
        fun (_, index) => target.selects index
  if picked.isEmpty then [(.unspecified, 0)] else picked

end Ssdp

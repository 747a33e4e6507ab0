import Ssdp.Log
import Ssdp.Net.Scope

/-!
# Planned sockets

What is asked of the operating system to make a socket, call by call. A sender is bound to
a selected address and a port of the operating system's choice. A listener is bound to the
port of the protocol, and joins the group of its version on the interfaces of the selected
addresses before that.

* `SenderPlan.ofV4`, `SenderPlan.ofV6`: the calls that make a sender;
* `ListenerPlan.ofV4`, `ListenerPlan.ofV6`: those that make a listener, around its
  memberships of the group.
-/

namespace Ssdp

/-- The port of the protocol. -/
def ssdpPort : UInt16 := 1900

/-- The multicast group of version 4, `239.255.255.250`. -/
def groupV4 : V4 := .ofOctets 239 255 255 250

/-- The multicast group of version 6, `ff02::c`, on the local link. -/
def groupV6 : V6 := .ofGroups [0xff02, 0, 0, 0, 0, 0, 0, 0xc]

/-- An option of a socket. The interface for what is sent to a group is named by its address
or by its index. -/
inductive SocketOption where
  | reuseAddress
  | reusePort
  | onlyV6
  | multicastLoop (v4 on : Bool)
  | multicastInterface (point : JoinPoint)
  | nonblocking
deriving DecidableEq, Repr

/-- What is asked of the operating system: a new socket; an option, a membership of a group
and a local address for the socket that is being made. -/
inductive SocketCall where
  | create (v4 : Bool)
  | set (option : SocketOption)
  | join (group : Address) (point : JoinPoint)
  | bind (localAddress : SocketAddress)
deriving DecidableEq, Repr

/-- A sender that is to be made: its address and the calls that make it. -/
structure SenderPlan where
  address : Address
  calls : List SocketCall
deriving DecidableEq, Repr

/-- A listener that is to be made: the calls before it joins its group, the interfaces on
which it does, the one that stands in for them, and the calls after that. -/
structure ListenerPlan where
  address : Address
  opening : List SocketCall
  group : Address
  points : List JoinPoint
  fallback : JoinPoint
  closing : List SocketCall
deriving DecidableEq, Repr

/-- The sockets of one version that are to be made. -/
structure SocketPlan where
  senders : List SenderPlan
  listener : ListenerPlan
deriving DecidableEq, Repr

/-- The calls that open a socket of version 4. -/
def openingV4 (loopback : Bool) : List SocketCall :=
  [.create true, .set .reuseAddress, .set (.multicastLoop true loopback)]

/-- The calls that open a socket of version 6. -/
def openingV6 (loopback : Bool) : List SocketCall :=
  [.create false, .set .reuseAddress, .set .onlyV6, .set (.multicastLoop false loopback)]

/-- The calls that bind a socket. -/
def binding (localAddress : SocketAddress) : List SocketCall :=
  [.bind localAddress, .set .nonblocking]

namespace SenderPlan

/-- A sender on an address of version 4, which names the interface for the group unless it
is unspecified. The port is for the operating system to choose. -/
def ofV4 (loopback : Bool) (ip : V4) : SenderPlan where
  address := .v4 ip
  calls :=
    openingV4 loopback ++
      (if ip.isUnspecified then [] else [.set (.multicastInterface (.address ip))]) ++
      binding (.v4 ip 0)

/-- A sender on an address of version 6 with the index of its interface. Link-local
addresses are bound with their scope. -/
def ofV6 (loopback : Bool) : V6 × Nat → SenderPlan
  | (ip, index) => {
      address := .v6 ip
      calls :=
        openingV6 loopback ++ [.set (.multicastInterface (.index index))] ++
          binding (.v6 ip 0 (if ip.isLinkLocal then UInt32.ofNat index else 0)) }

end SenderPlan

namespace ListenerPlan

/-- The calls that remain when the group was joined on one of the planned interfaces, or on
none: then the fallback comes first. -/
def remaining (plan : ListenerPlan) (joined : Bool) : List SocketCall :=
  if joined then plan.closing else .join plan.group plan.fallback :: plan.closing

/-- The listener of version 4, which joins the group by the selected addresses. -/
def ofV4 (loopback : Bool) (ips : List V4) : ListenerPlan where
  address := .v4 .unspecified
  opening := openingV4 loopback ++ [.set .reusePort]
  group := .v4 groupV4
  points := (ips.filter (!·.isUnspecified)).map .address
  fallback := .address .unspecified
  closing := binding (.v4 .unspecified ssdpPort)

/-- The listener of version 6, which joins the group by the indexes of the selected
addresses. -/
def ofV6 (loopback : Bool) (ips : List (V6 × Nat)) : ListenerPlan where
  address := .v6 .unspecified
  opening := openingV6 loopback ++ [.set .reusePort]
  group := .v6 groupV6
  points := ((ips.map (·.2)).filter (· ≠ 0)).map .index
  fallback := .index 0
  closing := binding (.v6 .unspecified ssdpPort 0)

end ListenerPlan

/-- The sockets of version 4 for the selected addresses. -/
def SocketPlan.ofV4 (loopback : Bool) (ips : List V4) : SocketPlan :=
  ⟨ips.map (.ofV4 loopback), .ofV4 loopback ips⟩

/-- The sockets of version 6 for the selected addresses and indexes. -/
def SocketPlan.ofV6 (loopback : Bool) (ips : List (V6 × Nat)) : SocketPlan :=
  ⟨ips.map (.ofV6 loopback), .ofV6 loopback ips⟩

end Ssdp

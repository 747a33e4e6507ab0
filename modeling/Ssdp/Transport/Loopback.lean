import Ssdp.Transport.Send
import Ssdp.Url
import Ssdp.Url.Parser

/-!
# A machine on its own

A machine whose only interface is its loopback, with an address of the loopback
network and two more of version 4, and two of version 6. Every address of its
version 4 networks can be bound but the last of each, which is for broadcasts, and
sockets may not broadcast; groups of version 4 can be joined once on the interface,
by any address that can be bound; there is no default interface and no route for
groups of version 6. Programs on it read URLs as on the web.

* `loopbackMachine`: its interfaces;
* `loopbackSockets`, `loopbackWire`: how it answers calls and sends;
* `webUrls`: how URLs are read.
-/

namespace Ssdp

/-- The version 4 subnets of the machine. -/
def loopbackSubnets : List (V4 × V4) :=
  [(.ofOctets 127 0 0 1, .ofOctets 255 0 0 0),
   (.ofOctets 100 64 3 7, .ofOctets 255 255 255 0),
   (.ofOctets 203 0 113 77, .ofOctets 255 255 255 240)]

/-- The version 6 subnets of the machine. -/
def loopbackSubnets6 : List (V6 × V6) :=
  [(.loopback, ⟨BitVec.allOnes 128⟩),
   (.ofGroups [0x2001, 0xdb8, 7, 0, 0, 0, 0, 5], ⟨BitVec.allOnes 128 <<< 64⟩)]

/-- The name of the loopback interface. -/
def loopbackName : Text := "lo".toList

/-- The most bytes that the name of an interface may have. -/
def interfaceNameLimit : Nat := 15

/-- The machine: its interface has the index 1, also under names that add a
label after a colon. -/
def loopbackMachine : Machine where
  interfaces :=
    loopbackSubnets.map (fun (ip, mask) => ⟨loopbackName, .v4 ip mask⟩) ++
      loopbackSubnets6.map (fun (ip, mask) => ⟨loopbackName, .v6 ip mask⟩)
  indexOf name :=
    if name.foldl (fun n c => n + c.utf8Size) 0 ≤ interfaceNameLimit ∧
        name.takeWhile (· != ':') = loopbackName then some 1
    else none

/-- Whether an address of version 4 lies in one of the machine's networks. -/
def inOwnNetwork (ip : V4) : Bool :=
  loopbackSubnets.any fun (net, mask) => (Subnet.v4 net mask).contains (.v4 ip)

/-- Whether an address of version 4 is the last of one of the machine's networks. -/
def isNetworkBroadcast (ip : V4) : Bool :=
  loopbackSubnets.any fun (net, mask) => ip.bits == net.bits ||| ~~~mask.bits

/-- Whether an address of version 4 is one of the machine's own. -/
def isOwnV4 (ip : V4) : Bool :=
  inOwnNetwork ip && !isNetworkBroadcast ip

/-- Whether an address of version 6 is one of the machine's own. -/
def isOwnV6 (ip : V6) : Bool :=
  loopbackSubnets6.any (·.1 = ip)

/-- Whether a membership of the group gets through on the machine. -/
def joinsOwn : SocketCall → Bool
  | .join _ (.address ip) => isOwnV4 ip
  | .join _ (.index n) => n == 1
  | _ => false

/-- The calls made for the socket that is being made. -/
def sinceCreated (calls : List SocketCall) : List SocketCall :=
  calls.reverse.takeWhile fun
    | .create _ => false
    | _ => true

/-- The answer to a call that needs an address of the machine. -/
def ifOwn (own : Bool) : Except IoError Unit :=
  if own then .ok () else .error .addressNotAvailable

/-- How the machine answers calls. -/
def loopbackSockets : Sockets := fun calls call =>
  match call with
  | .create _ => .ok ()
  | .set (.multicastInterface (.address ip)) => ifOwn (isOwnV4 ip)
  | .set _ => .ok ()
  | .join .. =>
    if !joinsOwn call then .error .noSuchDevice
    else if (sinceCreated calls).any joinsOwn then .error .addressInUse
    else .ok ()
  | .bind (.v4 ip _) => ifOwn (ip.isUnspecified || isOwnV4 ip)
  | .bind (.v6 ip _ _) => ifOwn (ip = .unspecified || isOwnV6 ip)

/-- The address that stands for all machines of a network. -/
def allMachines : V4 := .ofOctets 255 255 255 255

/-- Whether the machine has a route to an address of version 4 from another. Groups
and the address of all machines are reached only from an address of its own. -/
def reachesV4 (via ip : V4) : Bool :=
  if inNetwork 0xe0000000#32 4 ip.bits || ip = allMachines then !via.isUnspecified
  else ip.isUnspecified || inOwnNetwork ip

/-- Whether the machine has a route to an address of version 6. -/
def reachesV6 (ip : V6) : Bool :=
  ip = .unspecified ||
    loopbackSubnets6.any fun (net, mask) => (Subnet.v6 net mask).contains (.v6 ip)

/-- The most bytes that a length in a header can tell. -/
def lengthLimit : Nat := 65535

/-- How the machine answers a datagram of version 4 that is so long. The packet
holds a header of 20 bytes and one of 8 besides. -/
def sendV4 (via ip : V4) (port : UInt16) (size : Nat) : Except IoError Unit :=
  if size > lengthLimit then .error .messageTooLong
  else if port = 0 then .error .invalidArgument
  else if !reachesV4 via ip then .error .networkUnreachable
  else if ip = allMachines || isNetworkBroadcast ip then .error .permissionDenied
  else if size > lengthLimit - 28 then .error .messageTooLong
  else .ok ()

/-- How the machine answers a datagram of version 6 that is so long. The packet
holds a header of 8 bytes besides, and no route leads to version 4. -/
def sendV6 (ip : V6) (port : UInt16) (size : Nat) : Except IoError Unit :=
  if ip.mapped?.isSome then .error .networkUnreachable
  else if port = 0 then .error .invalidArgument
  else if !reachesV6 ip then .error .networkUnreachable
  else if size > lengthLimit - 8 then .error .messageTooLong
  else .ok ()

/-- How the machine answers sends. -/
def loopbackWire : Wire := fun _ packet =>
  match packet.via, packet.destination with
  | .v4 via, .v4 ip port => sendV4 via ip port packet.payload.size
  | _, .v6 ip port _ => sendV6 ip port packet.payload.size
  | _, _ => .error .networkUnreachable

/-- The local address under which a peer on the machine sees a sender. -/
def seenFrom : Address → Address
  | .v4 ip => .v4 (if ip.isUnspecified then .ofOctets 127 0 0 1 else ip)
  | .v6 ip => .v6 (if ip = .unspecified then .loopback else ip)

/-- The parser that reads URLs as on the web. -/
instance webUrls : UrlParser where
  read? t :=
    match WebUrl.read? t with
    | .ok url => .ok ⟨url.text⟩
    | .error error => .error ⟨error.message⟩
  read?_nil _ := nofun

end Ssdp

import Ssdp.Net.IoError
import Ssdp.Net.Scope

/-!
# Interfaces

The interfaces of a machine, the addresses that sockets should be bound to, and
the choice among them.

* `Machine.bindAddresses`: the addresses of a machine that are not loopback, in
  ascending order;
* `Machine.isLocal`: whether an address belongs to the local network;
* `IpVersion.includes`, `Target.selects`: what a choice covers.
-/

namespace Ssdp

/-- Puts an element into an ascending list, unless it is there already. -/
def insertAscending {α : Type} [DecidableEq α] (before : α → α → Bool) (x : α) : List α → List α
  | [] => [x]
  | y :: rest =>
    if x = y then y :: rest
    else if before x y then x :: y :: rest
    else y :: insertAscending before x rest

/-- The elements of a list in ascending order, each once. -/
def ascending {α : Type} [DecidableEq α] (before : α → α → Bool) (xs : List α) : List α :=
  xs.foldr (insertAscending before) []

/-- Whether the address is a loopback address. -/
def Address.isLoopback : Address → Bool
  | .v4 ip => ip.isLoopback
  | .v6 ip => ip == .loopback

/-- An interface of a machine with one of its addresses; an interface with
several addresses is listed once for each. -/
structure Interface where
  name : Text
  subnet : Subnet
deriving DecidableEq, Repr

/-- The interfaces of a machine and the index of each interface name. -/
structure Machine where
  interfaces : List Interface
  indexOf : Text → Option Nat

namespace Machine

/-- The index of the interface with this name; zero is no index. -/
def indexOfName (m : Machine) (name : Text) : Except IoError Nat :=
  if name.any (· == '\x00') then .error .invalidInterfaceName
  else
    match m.indexOf name with
    | some (index + 1) => .ok (index + 1)
    | _ => .error .noSuchDevice

/-- The index of the first interface that has this address and an index. -/
def indexOfAddress (m : Machine) (ip : V6) : Except IoError Nat :=
  let indexes := m.interfaces.filterMap fun i =>
    if i.subnet.address = .v6 ip then (m.indexOfName i.name).toOption else none
  match indexes.head? with
  | some index => .ok index
  | none => .error .interfaceNotFound

/-- The addresses to bind sockets to: those that are not loopback, in ascending
order. -/
def bindAddresses (m : Machine) : List Address :=
  ascending Address.before ((m.interfaces.map (·.subnet.address)).filter (!·.isLoopback))

/-- Whether the address is private or lies in the subnet of an interface. -/
def isLocal (m : Machine) (a : Address) : Bool :=
  a.isPrivate || m.interfaces.any fun i => i.subnet.contains a

end Machine

/-- The versions of the protocol to use. -/
inductive IpVersion where
  | v4
  | v6
  | both
deriving DecidableEq, Repr

/-- Whether addresses like this one are used. -/
def IpVersion.includes : IpVersion → Address → Bool
  | .both, _ => true
  | .v4, a => a.isV4
  | .v6, a => !a.isV4

/-- The interfaces to use, named by their addresses or their indexes: the one
the operating system chooses, all of them, a given one, or a given set. -/
inductive Target (α : Type) where
  | default
  | all
  | specific (member : α)
  | multi (members : List α)
deriving DecidableEq, Repr

/-- Whether the target names this interface; the operating system's choice names
none. -/
def Target.selects {α : Type} [DecidableEq α] : Target α → α → Bool
  | .default, _ => false
  | .all, _ => true
  | .specific member, a => member == a
  | .multi members, a => members.contains a

/-- What the owners of sockets know of the network: the addresses to bind and
whether an address is local. -/
structure Network where
  bindAddresses : List Address
  isLocal : Address → Bool

/-- The network of a machine. -/
def Machine.network (m : Machine) : Network :=
  ⟨m.bindAddresses, m.isLocal⟩

/-- A network that consists of the given addresses alone. -/
def Network.ofList (addresses : List Address) : Network :=
  ⟨addresses, addresses.contains⟩

end Ssdp

import Ssdp.Message.Printer
import Ssdp.Transport.Build

/-!
# Sending

A message for everybody goes out once from every sender, to the group of the
sender's version, with a `HOST` header that names the group unless the message
has one. It has been sent if one of the sends got through. A message for one
destination goes out as it is, from the first sender of the destination's
version.

* `Transport.sendMulticast`, `Transport.sendUnicast`: the packets tried and the
  result.
-/

namespace Ssdp

/-- A datagram on its way from a local address to a destination. -/
structure Packet where
  via : Address
  destination : SocketAddress
  payload : ByteArray

/-- The answers of the operating system to a send, after the sends tried before
it. -/
abbrev Wire := List Packet → Packet → Except IoError Unit

/-- The group that a sender on a local address multicasts to. -/
def groupOf : Address → SocketAddress
  | .v4 _ => .v4 groupV4 ssdpPort
  | .v6 _ => .v6 groupV6 ssdpPort 0

/-- The bytes of a message as they are multicast to a group. -/
def hostedBytes (m : Message) (group : SocketAddress) : Except HeaderError ByteArray :=
  (m.withHost group.text).map Message.toBytes

/-- The bytes of a message for the group of each version, once they are known. -/
structure HostedPackets where
  v4 : Option ByteArray := none
  v6 : Option ByteArray := none

/-- The bytes for the group of a local address, made when they are asked for the
first time. -/
def HostedPackets.get (h : HostedPackets) (m : Message) (via : Address) :
    Except HeaderError (HostedPackets × ByteArray) :=
  match via, h.v4, h.v6 with
  | .v4 _, some bytes, _ => .ok (h, bytes)
  | .v6 _, _, some bytes => .ok (h, bytes)
  | .v4 _, none, _ =>
    (hostedBytes m (groupOf via)).map fun bytes => ({ h with v4 := some bytes }, bytes)
  | .v6 _, _, none =>
    (hostedBytes m (groupOf via)).map fun bytes => ({ h with v6 := some bytes }, bytes)

/-- The packets that were tried, which of them got through, and what was put on
record. -/
structure Sending where
  tried : List Packet := []
  delivered : List Packet := []
  log : List LogRecord := []

/-- Sends a message to the group from each local address in turn. -/
def Sending.fromEach (s : Sending) (wire : Wire) (m : Message) (h : HostedPackets) :
    List Address → Except HeaderError Sending
  | [] => .ok s
  | via :: rest =>
    match h.get m via with
    | .error error => .error error
    | .ok (h, payload) =>
      let packet : Packet := ⟨via, groupOf via, payload⟩
      let tried := s.tried ++ [packet]
      match wire s.tried packet with
      | .ok () => fromEach { s with tried, delivered := s.delivered ++ [packet] } wire m h rest
      | .error error =>
        let record := LogRecord.sendFailed m.startLine packet.destination via error
        fromEach { s with tried, log := s.log ++ [record] } wire m h rest

/-- The number of sends that got through, which must not be zero. -/
def Sending.result (s : Sending) : Except SendError Nat :=
  if s.delivered.isEmpty then .error .noInterfaceSent else .ok s.delivered.length

namespace Transport

/-- Sends a message to the group from every sender. -/
def sendMulticast (t : Transport) (wire : Wire) (m : Message) : Except HeaderError Sending :=
  Sending.fromEach {} wire m {} t.senders

/-- Sends a message to one destination, and gives the packet that got through. -/
def sendUnicast (t : Transport) (wire : Wire) (m : Message) (destination : SocketAddress) :
    Except SendError Packet :=
  match t.senders.find? fun via => via.isV4 == destination.isV4 with
  | none => .error (.noSocketForFamily destination)
  | some via =>
    let packet : Packet := ⟨via, destination, m.toBytes⟩
    match wire [] packet with
    | .ok () => .ok packet
    | .error error => .error (.io error)

end Transport

end Ssdp

import Ssdp.Message.Basic
import Ssdp.Net.Address

/-!
# Received messages

A message that arrived, with the socket address it came from and the local
address of the interface it arrived on, which is unspecified for a listener
bound to every interface.
-/

namespace Ssdp

/-- A message with where it came from and where it arrived. -/
structure Received where
  message : Message
  sender : SocketAddress
  localAddress : Address
deriving DecidableEq, Repr

/-- What the message is dispatched under. -/
def Received.routeKey (e : Received) : Text :=
  e.message.routeKey

end Ssdp

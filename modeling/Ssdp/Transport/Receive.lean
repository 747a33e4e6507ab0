import Ssdp.Log
import Ssdp.Message.Parser
import Ssdp.Received

/-!
# Receiving

A datagram that is a message is dispatched with its sender and the local
address it arrived on; any other is dropped. Sockets are read in the background
with room for 8192 bytes: what is longer is cut, and what is empty is passed
over. Messages are queued in the order in which they were read, from whichever
socket, and dispatched one at a time from the front of the queue; when the
receiving is shut down, what has been queued is still dispatched.

* `accept`: the message of a datagram, or nothing, with what is put on record;
* `Background.step`: what may happen next in the background.
-/

namespace Ssdp

/-- The message that a datagram brings, if it is one, and what is put on
record. -/
def accept (datagram : ByteArray) (sender : SocketAddress) (localAddress : Address) :
    Option Received × List LogRecord :=
  match Message.read? datagram with
  | .ok reading =>
    (some { message := reading.message, sender, localAddress },
      reading.skipped.map .skippedLine)
  | .error error => (none, [.datagramDropped sender error])

/-- A datagram as a socket delivers it. -/
structure Arrival where
  datagram : ByteArray
  sender : SocketAddress

/-- The room for one datagram. -/
def bufferSize : Nat := 8192

/-- The message that is queued for an arrival on a local address, if any. -/
def Arrival.received? (a : Arrival) (localAddress : Address) : Option Received :=
  if a.datagram.isEmpty then none
  else (accept (a.datagram.extract 0 bufferSize) a.sender localAddress).1

/-- What is put on record of an arrival on a local address. -/
def Arrival.records (a : Arrival) (localAddress : Address) : List LogRecord :=
  if a.datagram.isEmpty then []
  else (accept (a.datagram.extract 0 bufferSize) a.sender localAddress).2

/-- A socket with its local address and the datagrams that wait on it. -/
structure WaitingSocket where
  localAddress : Address
  waiting : List Arrival := []

/-- How far a background run has got: reading and dispatching, dispatching what
is left, or over. -/
inductive Phase where
  | receiving
  | draining
  | over
deriving DecidableEq, Repr

/-- What goes on in the background: the sockets, the messages that are queued,
and those that were dispatched, in order. -/
structure Background where
  sockets : List WaitingSocket
  queue : List Received := []
  dispatched : List Received := []
  phase : Phase := .receiving

/-- What may happen next: a socket is read, the front of the queue is
dispatched, reading is given up, or the shutdown returns. -/
inductive BackgroundAction where
  | read (socket : Nat)
  | dispatch
  | shutdown
  | finish
deriving DecidableEq, Repr

namespace Background

/-- The socket in a place, without its first datagram, and that datagram. -/
def takeFirst? (b : Background) (socket : Nat) : Option (WaitingSocket × Arrival) :=
  match b.sockets[socket]? with
  | some ⟨localAddress, arrival :: waiting⟩ => some (⟨localAddress, waiting⟩, arrival)
  | _ => none

/-- What an action leads to, if it may happen. -/
def step (b : Background) : BackgroundAction → Option Background
  | .read socket =>
    if b.phase = .receiving then
      (b.takeFirst? socket).map fun (rest, arrival) =>
        { b with
          sockets := b.sockets.set socket rest
          queue := b.queue ++ (arrival.received? rest.localAddress).toList }
    else none
  | .dispatch =>
    match b.queue with
    | e :: queue =>
      if b.phase = .over then none
      else some { b with queue, dispatched := b.dispatched ++ [e] }
    | [] => none
  | .shutdown => if b.phase = .receiving then some { b with phase := .draining } else none
  | .finish => if b.phase = .draining ∧ b.queue = [] then some { b with phase := .over } else none

/-- The result of actions one after the other, if each may happen. -/
def steps (b : Background) : List BackgroundAction → Option Background
  | [] => some b
  | action :: rest => (b.step action).bind (·.steps rest)

end Background

end Ssdp

import Ssdp.Transport.Plan
import Ssdp.Transport.Select

/-!
# Building a transport

A transport has one sender for each selected address and at most one listener
for each version. A sender that cannot be made is left out. A listener joins
the group on every selected interface, and on the one that the operating system
chooses when none of those could be joined; it is left out when it cannot be
made. Only a transport without any socket is refused. What the operating system
answers to a call may depend on the calls before it, and no more is asked for a
socket after a call that it needs was refused.

* `Transport.build`: the transport, or the error, with what is put on record.
-/

namespace Ssdp

/-- Which local addresses have their announcements traced. -/
inductive Tracing where
  | off
  | every
  | only (a : Address)
deriving DecidableEq, Repr

/-- Whether announcements that arrive on a local address are traced. -/
def Tracing.covers : Tracing → Address → Bool
  | .off, _ => false
  | .every, _ => true
  | .only filter, a => filter == a

/-- The options of a transport. -/
structure TransportOptions where
  v4 : Target V4 := .all
  v6 : Target Nat := .all
  loopback : Bool := false
  tracing : Tracing := .off
deriving DecidableEq, Repr

/-- The sockets of the given versions that are to be made for a network, version 4 first. -/
def TransportOptions.plans (options : TransportOptions) (version : IpVersion)
    (network : Network) (indexOf : V6 → Except IoError Nat) : List SocketPlan :=
  (if version.includes (.v4 .unspecified) then
    [.ofV4 options.loopback (selectV4 options.v4 network.bindAddresses)]
  else []) ++
  (if version.includes (.v6 .unspecified) then
    [.ofV6 options.loopback (selectV6 options.v6 indexOf network.bindAddresses)]
  else [])

/-- The answers of the operating system to a call, after the calls before it. -/
abbrev Sockets := List SocketCall → SocketCall → Except IoError Unit

/-- A transport: the local addresses of its senders and of its listeners, the
network it was built for, and what it traces. -/
structure Transport where
  senders : List Address
  listeners : List Address
  network : Network
  tracing : Tracing

/-- The calls made so far, and what was put on record. -/
structure Progress where
  calls : List SocketCall := []
  log : List LogRecord := []

namespace Progress

/-- Makes one more call. -/
def ask (p : Progress) (os : Sockets) (call : SocketCall) : Progress × Except IoError Unit :=
  ({ p with calls := p.calls ++ [call] }, os p.calls call)

/-- Puts one more record on the log. -/
def note (p : Progress) (record : LogRecord) : Progress :=
  { p with log := p.log ++ [record] }

/-- Makes calls one after the other, up to the first that is refused. -/
def askAll (p : Progress) (os : Sockets) : List SocketCall → Progress × Except IoError Unit
  | [] => (p, .ok ())
  | call :: rest =>
    match p.ask os call with
    | (p, .ok ()) => p.askAll os rest
    | (p, .error error) => (p, .error error)

/-- Makes a sender for each plan, leaving out those that cannot be made. -/
def makeSenders (p : Progress) (os : Sockets) : List SenderPlan → Progress × List Address
  | [] => (p, [])
  | plan :: rest =>
    match p.askAll os plan.calls with
    | (p, .ok ()) =>
      let (p, senders) := p.makeSenders os rest
      (p, plan.address :: senders)
    | (p, .error error) => (p.note (.bindFailed plan.address error)).makeSenders os rest

/-- Joins a group on each interface, and tells whether one of them was joined. -/
def joinEach (p : Progress) (os : Sockets) (group : Address) : List JoinPoint → Progress × Bool
  | [] => (p, false)
  | point :: rest =>
    match p.ask os (.join group point) with
    | (p, .ok ()) => ((p.joinEach os group rest).1, true)
    | (p, .error error) => (p.note (.joinFailed group point error)).joinEach os group rest

/-- Makes a listener that joins its group on the planned interfaces, or on the fallback when
none of them could be joined. -/
def makeListener (p : Progress) (os : Sockets) (plan : ListenerPlan) :
    Progress × Except IoError Unit :=
  match p.askAll os plan.opening with
  | (p, .error error) => (p, .error error)
  | (p, .ok ()) =>
    let (p, joined) := p.joinEach os plan.group plan.points
    p.askAll os (plan.remaining joined)

/-- The local address of a listener, if it could be made; a listener that could not is put
on record. -/
def listen (p : Progress) (os : Sockets) (plan : ListenerPlan) :
    Progress × List Address :=
  match p.makeListener os plan with
  | (p, .ok ()) => (p, [plan.address])
  | (p, .error error) => (p.note (.listenFailed plan.address.isV4 error), [])

/-- The senders and the listeners that could be made of those planned. -/
def makeSockets (p : Progress) (os : Sockets) :
    List SocketPlan → Progress × List Address × List Address
  | [] => (p, [], [])
  | plan :: rest =>
    let (p, senders) := p.makeSenders os plan.senders
    let (p, listeners) := p.listen os plan.listener
    let (p, laterSenders, laterListeners) := p.makeSockets os rest
    (p, senders ++ laterSenders, listeners ++ laterListeners)

end Progress

namespace Transport

/-- Builds a transport of the given versions for a network, on a machine that
resolves addresses to indexes and answers calls. -/
def build (options : TransportOptions) (version : IpVersion) (network : Network)
    (indexOf : V6 → Except IoError Nat) (os : Sockets) :
    Progress × Except BuildError Transport :=
  let (p, senders, listeners) :=
    Progress.makeSockets {} os (options.plans version network indexOf)
  if senders.isEmpty && listeners.isEmpty then (p, .error .noBindableInterface)
  else
    (p.note (.transportBound senders),
      .ok { senders, listeners, network, tracing := options.tracing })

end Transport

end Ssdp

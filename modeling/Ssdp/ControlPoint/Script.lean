import Ssdp.Locator.Basic

/-!
# Scripts

What code outside the library does when it is called: the owner of a locator
with an event, a subscriber with a message, or the program that drives both. A
script is a tree of requests, each followed by what is done with its answer, so
that code may subscribe, unsubscribe, dispatch, operate locators and build new
ones in the middle of being called, to any depth. Scripts of one control point
share notes of a type `ν`. A script ends in good order or with a panic; whether
that goes any further is up to the call.
-/

namespace Ssdp

/-- The place of a locator in its control point. -/
abbrev LocatorId := Nat

/-- What can be asked of a locator: to start, stop, be disposed or dropped, to
search at once, to take its timer's tick, or to handle a message. -/
inductive Operation where
  | start
  | stop
  | dispose
  | drop
  | searchNow
  | tick
  | answer (e : Received)
  | announcement (e : Received)
deriving DecidableEq

/-- What outside code does, request by request. -/
inductive Script (ν : Type) where
  | done
  | panic (reason : PanicReason)
  | note (change : ν → ν) (next : ν → Script ν)
  | read (datagram : ByteArray) (next : Except ParseError Message → Script ν)
  | subscribe (key : Text) (handler : Received → Script ν) (next : HandlerId → Script ν)
  | unsubscribe (key : Text) (id : HandlerId) (next : Bool → Script ν)
  | countHandlers (key : Text) (next : Nat → Script ν)
  | dispatch (e : Received) (next : Nat → Script ν)
  | build (config : LocatorConfig) (owner : Event → Script ν)
      (next : Except ConfigError LocatorId → Script ν)
  | operate (id : LocatorId) (op : Operation) (next : Script ν)
  | look (id : LocatorId) (next : Option Locator → Script ν)

namespace Script

variable {ν : Type}

/-- A script that writes a note and ends. -/
def jot (change : ν → ν) : Script ν :=
  note change fun _ => done

end Script

end Ssdp

import Ssdp.ControlPoint.Script

/-!
# Control points

A control point is a router that locators and other subscribers share, the
locators with their owners, the link that searches are sent over, and a clock.
The link and the clock answer as they are told to: which attempts to send get
through, which replies arrive before a send returns, what the time is, and in
which order a cache is gone through at that time, are part of the state and may
be set to anything between two steps.

* `Clock`, `Conditions`: what differs from one moment to the next;
* `Reply`, `Link`: what comes back from a search, and what happens to it;
* `ControlPoint`: the state;
* `Entry`: what a step shows to an observer.
-/

namespace Ssdp

/-- The readings of the clock: the one that stamps devices when they are heard
of, and the one that sweeps compare with their expiry. -/
structure Clock where
  stamp : Instant := .origin
  sweep : Instant := .origin
deriving DecidableEq

/-- What a moment is like: what the clock reads, and in which order a cache is gone
through. -/
structure Conditions extends Clock where
  order : VisitOrder := {}
deriving DecidableEq

/-- Where only the clock is told of, a cache is gone through as it stands. -/
instance : Coe Clock Conditions :=
  ⟨fun clock => { clock with }⟩

/-- What comes back from a search: a message, or a datagram with its sender and the
local address it arrives on, which is read every time it comes. -/
inductive Reply where
  | message (e : Received)
  | datagram (bytes : ByteArray) (sender : SocketAddress) (localAddress : Address)

/-- The message of a reply, with the header lines passed over in reading it, unless
the reply is no message. -/
def Reply.read? : Reply → Option (Received × List SkippedLine)
  | message e => some (e, [])
  | datagram bytes sender localAddress =>
    match Message.read? bytes with
    | .ok reading => some (⟨reading.message, sender, localAddress⟩, reading.skipped)
    | .error _ => none

/-- What happens to a search that is sent: whether the n-th attempt gets
through, on how many interfaces, what comes back before the send returns, and
for which local addresses announcements are traced. -/
structure Link where
  works : Nat → Bool := fun _ => true
  interfaces : Nat := 1
  replies : List Reply := []
  traces : Address → Bool := fun _ => false

/-- Who is subscribed to a key: a locator for the answers to searches, a locator
for announcements, or other code. -/
inductive Subscriber (ν : Type) where
  | answers (id : LocatorId)
  | announcements (id : LocatorId)
  | code (handler : Received → Script ν)

/-- A locator with its owner. -/
structure Slot (ν : Type) where
  locator : Locator
  owner : Event → Script ν

/-- The state of a control point. -/
structure ControlPoint (ν : Type) where
  notes : ν
  router : Router (Subscriber ν) := {}
  slots : List (Slot ν) := []
  clock : Conditions := {}
  link : Link := {}
  attempts : Nat := 0

/-- What a step shows: an event on its way to the owner of a locator, a search
that got through, a handler that is invoked, or a record of the log. -/
inductive Entry where
  | emitted (id : LocatorId) (event : Event)
  | sent (id : LocatorId) (message : Message)
  | invoked (id : HandlerId) (e : Received)
  | logged (record : LogRecord)

namespace Entry

/-- The event and its locator, if the entry is one. -/
def event? : Entry → Option (LocatorId × Event)
  | emitted id event => some (id, event)
  | _ => none

/-- The message that was sent, if the entry is one. -/
def sent? : Entry → Option Message
  | sent _ message => some message
  | _ => none

/-- The record of the log, if the entry is one. -/
def record? : Entry → Option LogRecord
  | logged record => some record
  | _ => none

end Entry

namespace ControlPoint

variable {ν : Type}

/-- The locator in a place. -/
def locator? (c : ControlPoint ν) (id : LocatorId) : Option Locator :=
  (c.slots[id]?).map (·.locator)

/-- The control point with a change to the locator in a place. -/
def modifyLocator (c : ControlPoint ν) (id : LocatorId) (f : Locator → Locator) : ControlPoint ν :=
  { c with slots := c.slots.modify id fun s => { s with locator := f s.locator } }

/-- The control point with a change to the cache of the locator in a place. -/
def modifyCache (c : ControlPoint ν) (id : LocatorId) (f : Cache → Cache) : ControlPoint ν :=
  c.modifyLocator id fun l => { l with cache := f l.cache }

/-- Builds a locator with an owner and subscribes it to answers and to
announcements; options with a fault change nothing. -/
def build (c : ControlPoint ν) (config : LocatorConfig) (owner : Event → Script ν) :
    ControlPoint ν × Except ConfigError LocatorId :=
  match config.fault? with
  | some error => (c, .error error)
  | none =>
    let id := c.slots.length
    let (router, answers) := c.router.subscribe responseStartLine (.answers id)
    let (router, announcements) := router.subscribe notifyKey (.announcements id)
    let locator : Locator :=
      { config, subscriptions := [(responseStartLine, answers), (notifyKey, announcements)] }
    ({ c with router, slots := c.slots ++ [⟨locator, owner⟩] }, .ok id)

/-- The router without the subscriptions given. -/
def unsubscribeAll (r : Router (Subscriber ν)) : List (Text × HandlerId) → Router (Subscriber ν)
  | [] => r
  | (key, id) :: rest => unsubscribeAll (r.unsubscribe key id).1 rest

end ControlPoint

end Ssdp

import Ssdp.Cache
import Ssdp.Locator.Config
import Ssdp.Locator.Filter
import Ssdp.Router

/-!
# Locators

A locator keeps a cache of the devices that its filters let through. It learns
of them from announcements at any time, and from answers to searches while it
is listening. A disposed locator ignores everything.

* `Locator.judgeAnswer`, `Locator.judgeAnnouncement`: what a message amounts to;
* `Locator.refresh`: caches a device, and gives the event for the owner;
* `Event`: what an owner is told.
-/

namespace Ssdp

/-- What the owner of a locator is told: a device that was not cached, a cached
one that was heard of again, or one that left or expired. -/
inductive Event where
  | found (device : Device)
  | updated (old new : Device)
  | lost (device : Device)
deriving DecidableEq

/-- The device that the event is about, as it is or was last cached. -/
def Event.device : Event → Device
  | found d | updated _ d | lost d => d

/-- Whether the event is about a device that was not cached. -/
def Event.isNew : Event → Bool
  | found _ => true
  | _ => false

/-- A locator: its options and cache, whether it listens to answers, whether it
is disposed or dropped, whether it holds a timer, and its subscriptions. -/
structure Locator where
  config : LocatorConfig
  cache : Cache := {}
  listening : Bool := false
  disposed : Bool := false
  dropped : Bool := false
  timer : Bool := false
  subscriptions : List (Text × HandlerId) := []
deriving DecidableEq

/-- What a message amounts to for a locator: nothing, a device to cache, or the
farewell of every device with a `USN`. -/
inductive Verdict where
  | ignore
  | refresh (device : Device)
  | farewell (usn : Text)
deriving DecidableEq

namespace Locator

variable [UrlParser]

/-- Whether the filters let a notification type through. -/
def wants (l : Locator) (notificationType : Text) : Bool :=
  matchesFilter l.config.filters notificationType

/-- What a message amounts to when it should tell of a device, whose type is in
the given header; `traces` gives what is put on record of a device that is
wanted. -/
def judgeDevice (l : Locator) (typeHeader : Text) (traces : Device → List LogRecord)
    (now : Instant) (e : Received) : Verdict × List LogRecord :=
  match Device.ofReceived typeHeader l.config.defaultMaxAge now e with
  | .error fault => (.ignore, fault.records e.sender)
  | .ok d => if l.wants d.notificationType then (.refresh d, traces d) else (.ignore, [])

/-- What the answer to a search amounts to. -/
def judgeAnswer (l : Locator) (now : Instant) (e : Received) : Verdict × List LogRecord :=
  if !l.listening || l.disposed then (.ignore, [])
  else l.judgeDevice "ST".toList (fun _ => []) now e

/-- What a farewell amounts to: it needs a type that is wanted and a `USN`, and
no location. -/
def judgeFarewell (l : Locator) (tracing : Bool) (e : Received) : Verdict × List LogRecord :=
  let headers := e.message.headers
  match headers.getNonBlank? "NT".toList, headers.getNonBlank? "USN".toList with
  | some notificationType, some usn =>
    if l.wants (Text.trim notificationType) then
      (.farewell (Text.trim usn),
        if tracing then [.farewellTraced usn e.sender e.localAddress] else [])
    else (.ignore, [])
  | _, _ => (.ignore, [])

/-- What an announcement amounts to, by its `NTS`. -/
def judgeAnnouncement (l : Locator) (tracing : Bool) (now : Instant) (e : Received) :
    Verdict × List LogRecord :=
  if l.disposed then (.ignore, [])
  else
    match e.message.headers.get? "NTS".toList with
    | none => (.ignore, [])
    | some value =>
      match NotificationSubType.read? value with
      | .error error => (.ignore, [.unknownSubType e.sender error])
      | .ok .byeBye => l.judgeFarewell tracing e
      | .ok nts =>
        l.judgeDevice "NT".toList
          (fun d =>
            if tracing then [.presenceTraced nts d.location e.sender e.localAddress] else [])
          now e

/-- The locator as it shows itself, when its cache is gone through in this order. -/
def inOrder (l : Locator) (order : VisitOrder) : Locator :=
  { l with cache := l.cache.inOrder order }

/-- Caches a device, and gives the event for the owner. -/
def refresh (l : Locator) (d : Device) : Locator × Event :=
  match l.cache.replace d with
  | (cache, none) => ({ l with cache }, .found d)
  | (cache, some old) => ({ l with cache }, .updated old d)

end Locator

/-- What an event puts on record: a device that was not cached. -/
def Event.records : Event → List LogRecord
  | found d => [.deviceFound d.usn d.location]
  | _ => []

end Ssdp

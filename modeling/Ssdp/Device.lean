import Ssdp.Log
import Ssdp.Message.MaxAge
import Ssdp.Received
import Ssdp.Time.Instant
import Ssdp.Url

/-!
# Devices

A device or service that announced itself or answered a search. It is cached
for its age limit, counted from when it was heard of, and has expired at any
later instant; a limit too long to be represented never ends.

* `Device.ofReceived`: the device that a message tells of, or why it tells of
  none;
* `Device.isExpiredAt`: whether a device has expired.
-/

namespace Ssdp

/-- A device or service, as a message told of it. -/
structure Device where
  notificationType : Text
  usn : Text
  location : Url
  headers : Headers
  discoveredAt : Instant
  maxAge : Duration
  sender : SocketAddress
  localAddress : Address
deriving DecidableEq

/-- Why a message tells of no device. -/
inductive DeviceFault where
  | noLocation
  | badLocation (location : Text) (error : UrlError)
  | incomplete (typeHeader : Text)
deriving DecidableEq, Repr

/-- What a fault puts on record: a message without a location is passed over in
silence. -/
def DeviceFault.records (sender : SocketAddress) : DeviceFault → List LogRecord
  | .noLocation => []
  | .badLocation location error => [.badLocation sender location error]
  | .incomplete typeHeader => [.incompleteDevice sender typeHeader]

namespace Device

variable [UrlParser]

/-- The age limit that headers name, or the one given. -/
def ageLimit (headers : Headers) (fallback : Duration) : Duration :=
  ((headers.get? "CACHE-CONTROL".toList).bind maxAge?).getD fallback

/-- The device that a message tells of, its type in the given header: the
location is looked at first, then the type and the `USN`. -/
def ofReceived (typeHeader : Text) (defaultMaxAge : Duration) (now : Instant) (e : Received) :
    Except DeviceFault Device :=
  let headers := e.message.headers
  match headers.getNonBlank? "LOCATION".toList with
  | none => .error .noLocation
  | some location =>
    match UrlParser.read? (Text.trim location) with
    | .error error => .error (.badLocation location error)
    | .ok url =>
      match headers.getNonBlank? typeHeader, headers.getNonBlank? "USN".toList with
      | some notificationType, some usn =>
        .ok {
          notificationType := Text.trim notificationType
          usn := Text.trim usn
          location := url
          headers
          discoveredAt := now
          maxAge := ageLimit headers defaultMaxAge
          sender := e.sender
          localAddress := e.localAddress }
      | _, _ => .error (.incomplete typeHeader)

/-- When the device expires, if that can be represented. -/
def expiresAt? (d : Device) : Option Instant :=
  d.discoveredAt.checkedAdd d.maxAge

/-- Whether the device has expired: strictly after the end of its age limit. -/
def isExpiredAt (d : Device) (now : Instant) : Bool :=
  match d.expiresAt? with
  | some t => now.isAfter t
  | none => false

end Device

end Ssdp

import Ssdp.Message.NotificationSubType
import Ssdp.Message.Parser
import Ssdp.Net.Address.Printer
import Ssdp.Time.Duration
import Ssdp.Transport.Error
import Ssdp.Url

/-!
# The log

What is put on record, as causes: each record has a level and a text, and text
that comes from the network stands in quotes where it could be misread.

* `LogRecord.level`, `LogRecord.message`: the level and the text of a record;
* `LogRecord.line`: both, as one line.
-/

namespace Ssdp

/-- How much a record matters. -/
inductive LogLevel where
  | trace
  | debug
  | warn
  | error
deriving DecidableEq, Repr

/-- The name of a level. -/
def LogLevel.text : LogLevel → Text
  | .trace => "TRACE".toList
  | .debug => "DEBUG".toList
  | .warn => "WARN".toList
  | .error => "ERROR".toList

/-- What a panic carries: a text, or something that is none. -/
inductive PanicReason where
  | text (t : Text)
  | wordless
deriving DecidableEq, Repr

/-- The text of a panic. -/
def PanicReason.message : PanicReason → Text
  | .text t => t
  | .wordless => "unknown panic".toList

/-- The interface on which a group is joined: by its address or by its index. -/
inductive JoinPoint where
  | address (ip : V4)
  | index (n : Nat)
deriving DecidableEq, Repr

/-- What is put on record. -/
inductive LogRecord where
  | skippedLine (line : SkippedLine)
  | handlerPanicked (key : Text) (sender : SocketAddress) (reason : PanicReason)
  | badLocation (sender : SocketAddress) (location : Text) (error : UrlError)
  | incompleteDevice (sender : SocketAddress) (typeHeader : Text)
  | unknownSubType (sender : SocketAddress) (error : UnknownSubType)
  | deviceFound (usn : Text) (location : Url)
  | deviceLeft (usn notificationType : Text)
  | deviceExpired (usn notificationType : Text)
  | presenceTraced (nts : NotificationSubType) (location : Url) (sender : SocketAddress)
      (localAddress : Address)
  | farewellTraced (usn : Text) (sender : SocketAddress) (localAddress : Address)
  | ownerPanicked
  | searchSent (interfaces : Nat)
  | searchFailed (error : SendError)
  | locatorStarted (interval : Duration)
  | locatorDisposing
  | datagramDropped (sender : SocketAddress) (error : ParseError)
  | receiveFailed (localAddress : Address) (error : IoError)
  | sendFailed (startLine : Text) (group : SocketAddress) (via : Address) (error : IoError)
  | bindFailed (address : Address) (error : IoError)
  | joinFailed (group : Address) (point : JoinPoint) (error : IoError)
  | listenFailed (v4 : Bool) (error : IoError)
  | transportBound (addresses : List Address)
deriving DecidableEq

namespace LogRecord

/-- How much a record matters. -/
def level : LogRecord → LogLevel
  | skippedLine _ | badLocation .. | incompleteDevice .. | unknownSubType .. | searchSent _
  | datagramDropped .. => .trace
  | deviceFound .. | deviceLeft .. | deviceExpired .. | presenceTraced .. | farewellTraced ..
  | receiveFailed .. | locatorStarted _ | locatorDisposing | transportBound _ => .debug
  | searchFailed _ | sendFailed .. | bindFailed .. | joinFailed .. | listenFailed .. => .warn
  | handlerPanicked .. | ownerPanicked => .error

/-- The text of a record. -/
def message : LogRecord → Text
  | skippedLine (.withoutColon line) =>
    "Skipping SSDP header line without a colon: ".toList ++ line.quoted
  | skippedLine (.malformed line error) =>
    "Skipping malformed SSDP header line ".toList ++ line.quoted ++ ": ".toList ++ error.message
  | handlerPanicked key sender reason =>
    "SSDP handler for ".toList ++ key.quoted ++ " from ".toList ++ sender.text ++
      " panicked: ".toList ++ reason.message
  | badLocation sender location error =>
    "Ignoring SSDP device from ".toList ++ sender.text ++ " with bad LOCATION ".toList ++
      location.quoted ++ ": ".toList ++ error.message
  | incompleteDevice sender typeHeader =>
    "Ignoring SSDP device from ".toList ++ sender.text ++ " without ".toList ++ typeHeader ++
      " or USN".toList
  | unknownSubType sender error =>
    "Ignoring NOTIFY from ".toList ++ sender.text ++ ": ".toList ++ error.message
  | deviceFound usn location =>
    "Found SSDP device ".toList ++ usn ++ " at ".toList ++ location.text
  | deviceLeft usn nt => "SSDP device ".toList ++ usn ++ " (".toList ++ nt ++ ") left".toList
  | deviceExpired usn nt => "SSDP device ".toList ++ usn ++ " (".toList ++ nt ++ ") expired".toList
  | presenceTraced nts location sender localAddress =>
    "<- ".toList ++ nts.text ++ " ".toList ++ location.text ++ " from ".toList ++ sender.text ++
      " on ".toList ++ localAddress.text
  | farewellTraced usn sender localAddress =>
    "<- ssdp:byebye ".toList ++ usn ++ " from ".toList ++ sender.text ++ " on ".toList ++
      localAddress.text
  | ownerPanicked => "SSDP locator event handler panicked".toList
  | searchSent n =>
    "Sent M-SEARCH on ".toList ++ Text.decimal n ++ " interface(s)".toList
  | searchFailed error => "Failed to send M-SEARCH: ".toList ++ error.message
  | locatorStarted interval =>
    "SSDP locator started, searching every ".toList ++ interval.text
  | locatorDisposing => "Disposing SSDP locator".toList
  | datagramDropped sender error =>
    "Dropping datagram from ".toList ++ sender.text ++ ": ".toList ++ error.message
  | receiveFailed localAddress error =>
    "SSDP receive error on ".toList ++ localAddress.text ++ ": ".toList ++ error.message
  | sendFailed startLine group via error =>
    "Failed to send ".toList ++ startLine.quoted ++ " to ".toList ++ group.text ++ " on ".toList ++
      via.text ++ ": ".toList ++ error.message
  | bindFailed address error =>
    "Failed to bind SSDP socket on ".toList ++ address.text ++ ": ".toList ++ error.message
  | joinFailed group (.address ip) error =>
    "Failed to join ".toList ++ group.text ++ " on ".toList ++ ip.text ++ ": ".toList ++
      error.message
  | joinFailed group (.index n) error =>
    "Failed to join ".toList ++ group.text ++ " on interface #".toList ++ Text.decimal n ++
      ": ".toList ++ error.message
  | listenFailed v4 error =>
    "Failed to listen for ".toList ++ (if v4 then "IPv4".toList else "IPv6".toList) ++
      " SSDP announcements, only search responses will be received: ".toList ++ error.message
  | transportBound addresses =>
    "SSDP transport bound on [".toList ++ joinWith ", ".toList (addresses.map Address.text) ++
      "]".toList

/-- The level and the text of a record. -/
def line (r : LogRecord) : Text :=
  r.level.text ++ ' ' :: r.message

end LogRecord

end Ssdp

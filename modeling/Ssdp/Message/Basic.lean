import Ssdp.Message.Headers

/-!
# Messages

A message is a start line and headers; it has no body. Requests start with a
method, responses with `HTTP/` and a status.

* `Message.build`: a message from its start line and header lines;
* `Message.agree`: equality up to the order and the spelling of header names;
* `routeKey`: what a message is dispatched under;
* `Message.withHost`: the message as it is sent to a multicast group.
-/

namespace Ssdp

/-- The start line of a discovery request. -/
def searchStartLine : Text := "M-SEARCH * HTTP/1.1".toList

/-- The start line of the answer to a discovery request, which is also its
route key. -/
def responseStartLine : Text := "HTTP/1.1 200 OK".toList

/-- The route key of announcements. -/
def notifyKey : Text := "NOTIFY".toList

/-- The start line of an announcement. -/
def notifyStartLine : Text := "NOTIFY * HTTP/1.1".toList

/-- The first run of characters that are no ASCII blanks, if there is one. -/
def firstToken? (t : Text) : Option Text :=
  let token := (t.dropWhile isAsciiBlank).takeWhile fun c => !isAsciiBlank c
  if token.isEmpty then none else some token

/-- What a message with this start line is dispatched under: responses by the
whole line, requests by their method. A line of ASCII blanks stands for
itself. -/
def routeKey (startLine : Text) : Text :=
  if "HTTP/".toList.isPrefixOf startLine then startLine
  else (firstToken? startLine).getD startLine

/-- A start line with headers. -/
structure Message where
  startLine : Text
  headers : Headers := {}
deriving DecidableEq, Repr

namespace Message

/-- What the message is dispatched under. -/
def routeKey (m : Message) : Text :=
  Ssdp.routeKey m.startLine

/-- The message with one more header. -/
def withHeader (m : Message) (name value : Text) : Except HeaderError Message :=
  match m.headers.insert name value with
  | .ok (headers, _) => .ok { m with headers }
  | .error error => .error error

/-- The message with these headers inserted in order; the first fault counts. -/
def build (startLine : Text) (headers : List (Text × Text)) : Except HeaderError Message :=
  match Headers.empty.insertAll headers with
  | .ok headers => .ok { startLine, headers }
  | .error error => .error error

/-- Whether both have the same start line and headers that agree. -/
def agree (a b : Message) : Bool :=
  a.startLine == b.startLine && a.headers.agree b.headers

/-- The message with a `HOST` header put first, unless it has one already. -/
def withHost (m : Message) (host : Text) : Except HeaderError Message :=
  if m.headers.contains "HOST".toList then .ok m
  else build m.startLine (("HOST".toList, host) :: m.headers.entries.map fun e => (e.name, e.value))

end Message

end Ssdp

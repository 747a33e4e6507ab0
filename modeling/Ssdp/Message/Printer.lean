import Ssdp.Message.Basic

/-!
# Messages on the wire

A message is written as its start line, a line `Name: Value` for each header in
order, and an empty line, each ended by a carriage return and a line feed.
-/

namespace Ssdp

/-- The end of every line that is sent. -/
def lineEnd : Text := ['\r', '\n']

/-- The line of a header. -/
def Header.encode (h : Header) : Text :=
  h.name ++ [':', ' '] ++ h.value ++ lineEnd

namespace Message

/-- The text of a message as it is sent. -/
def encode (m : Message) : Text :=
  m.startLine ++ lineEnd ++ m.headers.entries.flatMap Header.encode ++ lineEnd

/-- The bytes of a message as it is sent, in UTF-8. -/
def toBytes (m : Message) : ByteArray :=
  (String.ofList m.encode).toUTF8

example : (Message.mk "NOTIFY".toList ⟨[⟨"A".toList, "1".toList⟩]⟩).encode =
    "NOTIFY\r\nA: 1\r\n\r\n".toList := by decide

end Message

end Ssdp

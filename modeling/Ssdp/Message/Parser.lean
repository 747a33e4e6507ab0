import Ssdp.Message.Basic
import Ssdp.Text.Lines

/-!
# Reading messages

A datagram is text in UTF-8. Its first line, trimmed, is the start line; the
lines after it up to the first blank one are headers, each split at its first
colon and trimmed on both sides. A line that has no colon, or whose header
cannot be inserted, is skipped and reported; what follows the first blank line
is not looked at.

* `Message.readText?`: the message a text stands for;
* `Message.read?`: the same for the bytes of a datagram.
-/

namespace Ssdp

/-- Why a datagram is no message. -/
inductive ParseError where
  | notUtf8
  | missingStartLine
deriving DecidableEq, Repr

/-- The text of a parse error. -/
def ParseError.message : ParseError → Text
  | .notUtf8 => "SSDP message is not valid UTF-8".toList
  | .missingStartLine => "SSDP message has no start line".toList

/-- A header line that was passed over. -/
inductive SkippedLine where
  | withoutColon (line : Text)
  | malformed (line : Text) (error : HeaderError)
deriving DecidableEq, Repr

/-- A message with the header lines that were passed over in reading it. -/
structure Reading where
  message : Message
  skipped : List SkippedLine
deriving DecidableEq, Repr

/-- Inserts the headers on the given lines, up to the first blank one, and
reports the lines passed over. -/
def Headers.read (h : Headers) : List Text → Headers × List SkippedLine
  | [] => (h, [])
  | line :: rest =>
    if Text.isBlank line then (h, [])
    else
      match Text.splitAtFirst ':' line with
      | none =>
        let (headers, skipped) := h.read rest
        (headers, .withoutColon line :: skipped)
      | some (name, value) =>
        match h.insert (Text.trim name) (Text.trim value) with
        | .ok (h', _) => h'.read rest
        | .error error =>
          let (headers, skipped) := h.read rest
          (headers, .malformed line error :: skipped)

namespace Message

/-- The message that a text stands for. -/
def readText? (t : Text) : Except ParseError Reading :=
  match Text.lines t with
  | [] => .error .missingStartLine
  | first :: rest =>
    if Text.isBlank first then .error .missingStartLine
    else
      let (headers, skipped) := Headers.empty.read rest
      .ok ⟨⟨Text.trim first, headers⟩, skipped⟩

/-- The message that the bytes of a datagram stand for. -/
def read? (datagram : ByteArray) : Except ParseError Reading :=
  match datagram.utf8Decode? with
  | none => .error .notUtf8
  | some chars => readText? chars.toList

/-- Reading the bytes of a text is reading the text. -/
theorem read?_toUTF8 (t : Text) : read? (String.ofList t).toUTF8 = readText? t := by
  simp [read?, List.utf8Decode?_utf8Encode]

end Message

end Ssdp

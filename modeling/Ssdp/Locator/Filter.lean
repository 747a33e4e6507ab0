import Ssdp.Text.Basic

/-!
# Filters

A locator is interested in the notification types that begin with one of its
filters. The bytes of a filter in UTF-8 are compared with as many bytes of the
type, ASCII letters without regard to case.
-/

namespace Ssdp

/-- The bytes of a text in UTF-8. -/
def utf8Bytes (t : Text) : List UInt8 :=
  t.flatMap String.utf8EncodeChar

/-- A byte with an ASCII capital replaced by its small letter. -/
def foldByte (b : UInt8) : UInt8 :=
  if 0x41 ≤ b && b ≤ 0x5a then b + 0x20 else b

/-- Whether there are as many bytes as in the filter, and they agree with it up to
ASCII case. -/
def beginsWith (filter bytes : List UInt8) : Bool :=
  (bytes.take filter.length).map foldByte == filter.map foldByte

/-- Whether the type begins with one of the filters. -/
def matchesFilter (filters : List Text) (notificationType : Text) : Bool :=
  let bytes := utf8Bytes notificationType
  filters.any fun filter => beginsWith (utf8Bytes filter) bytes

example : matchesFilter ["urn:my:".toList] "URN:My:x".toList = true := by decide
example : matchesFilter ["é".toList] "è".toList = false := by decide
example : matchesFilter [] "x".toList = false := by decide

end Ssdp

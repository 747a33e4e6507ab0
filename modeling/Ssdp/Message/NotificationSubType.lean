import Ssdp.Text.Blank
import Ssdp.Text.Quoted

/-!
# Notification sub-types

The header `NTS` of an announcement says what is announced: that a device is
there, that it leaves, or that it changed.
-/

namespace Ssdp

/-- What an announcement says of its device. -/
inductive NotificationSubType where
  | alive
  | byeBye
  | update
deriving DecidableEq, Repr

/-- An `NTS` value, trimmed, that names no sub-type. -/
structure UnknownSubType where
  value : Text
deriving DecidableEq, Repr

/-- The text of an unknown sub-type. -/
def UnknownSubType.message (e : UnknownSubType) : Text :=
  "Unknown NTS value ".toList ++ e.value.quoted

namespace NotificationSubType

/-- How the sub-type is written. -/
def text : NotificationSubType → Text
  | .alive => "ssdp:alive".toList
  | .byeBye => "ssdp:byebye".toList
  | .update => "ssdp:update".toList

/-- The sub-type that a value names, read without blanks around it and without
regard to ASCII case. -/
def read? (value : Text) : Except UnknownSubType NotificationSubType :=
  let name := Text.trim value
  match [alive, byeBye, update].find? fun nts => Text.sameName nts.text name with
  | some nts => .ok nts
  | none => .error ⟨name⟩

end NotificationSubType

end Ssdp

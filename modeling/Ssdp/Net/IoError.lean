import Ssdp.Text.Basic

/-!
# Input and output errors

The ways in which the operating system, or a look-up of an interface, refuses a
request, with their texts.
-/

namespace Ssdp

/-- Why a request for a socket, an interface or a datagram was refused. -/
inductive IoError where
  | noSuchDevice
  | messageTooLong
  | addressInUse
  | addressNotAvailable
  | networkUnreachable
  | permissionDenied
  | invalidArgument
  | invalidInterfaceName
  | interfaceNotFound
  | other (text : Text)
deriving DecidableEq, Repr

/-- The text of an input or output error. -/
def IoError.message : IoError → Text
  | .noSuchDevice => "No such device (os error 19)".toList
  | .messageTooLong => "Message too long (os error 90)".toList
  | .addressInUse => "Address already in use (os error 98)".toList
  | .addressNotAvailable => "Cannot assign requested address (os error 99)".toList
  | .networkUnreachable => "Network is unreachable (os error 101)".toList
  | .permissionDenied => "Permission denied (os error 13)".toList
  | .invalidArgument => "Invalid argument (os error 22)".toList
  | .invalidInterfaceName => "Invalid interface name".toList
  | .interfaceNotFound => "Interface not found".toList
  | .other text => text

end Ssdp

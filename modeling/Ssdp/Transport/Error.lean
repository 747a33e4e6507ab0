import Ssdp.Net.Address.Printer
import Ssdp.Net.IoError

/-!
# Transport errors

What can go wrong in sending a message, in building a transport and in shutting
its receiving thread down, with the texts.
-/

namespace Ssdp

/-- The text in which an input or output error is passed on. -/
def ioErrorText (e : IoError) : Text :=
  "I/O error: ".toList ++ e.message

/-- Why a message was not sent. -/
inductive SendError where
  | noInterfaceSent
  | noSocketForFamily (destination : SocketAddress)
  | io (error : IoError)
deriving DecidableEq, Repr

/-- The text of a sending error. -/
def SendError.message : SendError → Text
  | .noInterfaceSent => "The message could not be sent on any interface".toList
  | .noSocketForFamily destination =>
    "No socket is bound for the address family of ".toList ++ destination.text
  | .io error => ioErrorText error

/-- Why a transport could not be built. -/
inductive BuildError where
  | noBindableInterface
  | io (error : IoError)
deriving DecidableEq, Repr

/-- The text of a building error. -/
def BuildError.message : BuildError → Text
  | .noBindableInterface => "No local interface address could be bound".toList
  | .io error => ioErrorText error

/-- Why the receiving thread did not end in good order. -/
inductive ShutdownError where
  | threadPanicked
  | io (error : IoError)
deriving DecidableEq, Repr

/-- The text of a shutdown error. -/
def ShutdownError.message : ShutdownError → Text
  | .threadPanicked => "Thread panicked".toList
  | .io error => ioErrorText error

end Ssdp

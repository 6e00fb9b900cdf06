import Duplex.Socket.IoError

/-! # Errors of the network

  The errors that the system reports for sockets, with their numbers.
-/

namespace Duplex.IoError

/-- The other side has closed, and nothing can be written any more. -/
def brokenPipe : IoError := numbered .brokenPipe "Broken pipe" 32

/-- Somebody listens at the address already. -/
def addressInUse : IoError := numbered .addrInUse "Address already in use" 98

/-- The address is not one of this host. -/
def addressNotAvailable : IoError :=
  numbered .addrNotAvailable "Cannot assign requested address" 99

/-- There is no way to the address. -/
def networkUnreachable : IoError := numbered .networkUnreachable "Network is unreachable" 101

/-- The other side has torn the connection down. -/
def connectionReset : IoError := numbered .connectionReset "Connection reset by peer" 104

/-- The connection is gone. -/
def notConnected : IoError := numbered .notConnected "Transport endpoint is not connected" 107

/-- Nobody listens at the address. -/
def connectionRefused : IoError := numbered .connectionRefused "Connection refused" 111

end Duplex.IoError

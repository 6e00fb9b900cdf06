import Duplex.Duration

/-! # Socket configuration

  How connections behave: options of the socket, the size of a read, how long an orderly
  close may take, and what a receiver makes of a peer that closes.
-/

namespace Duplex

/-- What an orderly close by the peer means to a receiver. -/
inductive PeerClosePolicy where
  /-- It is an error. -/
  | error
  /-- It is the end of the stream. -/
  | complete
  deriving DecidableEq, Repr

/-- The name of a policy in a diagnostic. -/
def PeerClosePolicy.name : PeerClosePolicy → String
  | error => "Error"
  | complete => "Complete"

/-- How connections behave. -/
structure SocketConfig where
  /-- How long a closed socket lingers; none leaves it to the system. -/
  linger : Option Duration := none
  /-- Whether small writes are sent at once. -/
  nodelay : Bool := false
  /-- How much room is reserved before each read, in octets. A read may find more room than that,
      so this bounds no chunk. -/
  receiveBufferSize : Nat := 4096
  /-- How long disposal waits for the peer to close. -/
  disconnectTimeout : Duration := .ofMillis 2000
  /-- What an orderly close by the peer means. -/
  peerClose : PeerClosePolicy := .error
  deriving DecidableEq, Repr

namespace SocketConfig

/-- The configuration with another room for reads; at least one octet is reserved. -/
def withReceiveBufferSize (c : SocketConfig) (size : Nat) : SocketConfig :=
  { c with receiveBufferSize := max 1 size }

/-- An optional duration in a diagnostic. -/
def diagnoseLinger : Option Duration → String
  | none => "None"
  | some d => "Some(" ++ d.text ++ ")"

/-- The configuration as a diagnostic. -/
def diagnose (c : SocketConfig) : String :=
  "TcpSocketConfig \x7b linger: " ++ diagnoseLinger c.linger ++
    ", nodelay: " ++ toString c.nodelay ++
    ", receive_buffer_size: " ++ toString c.receiveBufferSize ++
    ", disconnect_timeout: " ++ c.disconnectTimeout.text ++
    ", peer_close: " ++ c.peerClose.name ++ ", .. \x7d"

end SocketConfig

end Duplex

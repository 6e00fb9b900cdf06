import Duplex.Connection.Basic

/-! # Sending

  A send looks at the connection once, waits for the writing half, and writes its buffer in
  as many pieces as the socket takes. Nothing is written for an empty buffer or after
  disposal was asked for. A write error marks the connection as down.
-/

namespace Duplex.Connection

/-- Send `i` returns. -/
def returnSend (c : Connection) (i : Nat) (result : Except ConnectionError Nat) : Stepped :=
  ((c.releaseWriter (.send i)).setSend i (.returned result), [.sent i result])

/-- Send `i` returns because a side has fired. -/
def interruptSend (c : Connection) (i : Nat) (source : CancelSource) : Stepped :=
  c.returnSend i <| .error <|
    match source with
    | .disposal => .disposed
    | .external => .cancelled Operation.write.name

/-- Send `i` goes on if the writing half was granted to it. -/
def enterWriter (c : Connection) (i : Nat) (bytes : Bytes) : Stepped :=
  if !c.writer.heldBy (.send i) then (c.setSend i .waiting, [])
  else if c.writeHalf then (c.setSend i (.writing bytes true), [])
  else c.returnSend i (.error .disposed)

/-- Polls send `i`. -/
def pollSend (c : Connection) (i : Nat) (s : Send) : Option Stepped :=
  match s.state with
  | .created =>
    if c.isDisposed then some (c.returnSend i (.error .disposed))
    else if s.bytes.isEmpty then some (c.returnSend i (.ok 0))
    else
      match c.fired s.cancelled with
      | some source => some (c.interruptSend i source)
      | none => some ({ c with writer := c.writer.request (.send i) }.enterWriter i s.bytes)
  | .waiting =>
    match c.fired s.cancelled with
    | some source => some (c.interruptSend i source)
    | none => some (c.enterWriter i s.bytes)
  | .writing rest false =>
    match c.fired s.cancelled with
    | some source => some (c.interruptSend i source)
    | none => some (c.setSend i (.writing rest true), [])
  | .writing _ true | .returned _ | .dropped => none

/-- Send `i` takes the socket's answer to a write of all that is left. -/
def write (c : Connection) (i : Nat) (s : Send) (answer : WriteAnswer) : Option Stepped :=
  match s.state, answer with
  | .writing rest true, .blocked => some (c.setSend i (.writing rest false), [])
  | .writing rest true, .accepted n =>
    if n = 0 ∨ rest.length < n then none
    else if n = rest.length then
      let (c, effects) := c.returnSend i (.ok s.bytes.length)
      some (c, .wrote rest :: effects)
    else some (c.setSend i (.writing (rest.drop n) true), [.wrote (rest.take n)])
  | .writing _ true, .failed e =>
    let error := ConnectionError.ofIo Operation.write.name e
    let record := LogRecord.warn "tcp send failed" (some error.message) [("peer", c.peerAddress)]
    let (c, effects) := { c with connected := false }.returnSend i (.error error)
    some (c, .recorded record :: effects)
  | _, _ => none

/-- Drops send `i`. -/
def dropSend (c : Connection) (i : Nat) (s : Send) : Option Stepped :=
  match s.state with
  | .returned _ | .dropped => none
  | _ => some ((c.releaseWriter (.send i)).setSend i .dropped, [])

end Duplex.Connection

import Duplex.Host.Basic

/-! # Accepting

  A pull of an accept stream waits for a peer and has the new connection tracked before it
  hands it out. Tracking asks for the disposal token of the listener in the same step in which
  it writes the connection down. A connection that comes after the token has fired is
  disposed of and never handed out.

  The stream ends when a side fires, when the listener has no socket any more, and after an
  error of the socket. A peer whose connection cannot be set up is passed over. A poll of a
  stream that has ended panics.
-/

namespace Duplex.Host

/-- Accept stream `i` of listener `l` gives its last answer, which is the end or an error before
    it. -/
def endAccept (h : Host) (l i : Nat) (records : List LogRecord)
    (answer : Polled Nat ConnectionError) : Stepped :=
  (h.modifyListener l (·.concludeAccept i answer),
    records.map (.recorded l) ++ [.answered l i answer])

/-- Accept stream `i` of listener `l` turns to the listening socket, unless the socket is gone
    or a side has fired. -/
def seekPeer (h : Host) (l i : Nat) (listener : Listener) (a : Accept) : Stepped :=
  if listener.listening ∧ listener.fired a.cancelled = none then
    (h.modifyListener l (·.setAccept i (.accepting true)), [])
  else h.endAccept l i [] .ended

/-- Polls accept stream `i` of listener `l`. -/
def pollAccept (h : Host) (l i : Nat) (listener : Listener) (a : Accept) : Option Stepped :=
  match a.state with
  | .idle =>
    if a.finished then some (h.modifyListener l (·.setAccept i .exhausted), [.answered l i .ended])
    else some (h.seekPeer l i listener a)
  | .accepting false =>
    match listener.fired a.cancelled with
    | some _ => some (h.endAccept l i [] .ended)
    | none => some (h.modifyListener l (·.setAccept i (.accepting true)), [])
  | .refusing c =>
    match h.outcome c with
    | some _ => some (h.endAccept l i [] .ended)
    | none => some (h, [.answered l i .pending])
  | .exhausted => some (h, [.panicked l i])
  | .accepting true | .tracking _ | .dropped => none

/-- Accept stream `i` of listener `l` takes the answer of the listening socket. -/
def accept (h : Host) (l i : Nat) (listener : Listener) (a : Accept) (answer : AcceptAnswer) :
    Option Stepped :=
  match a.state, answer with
  | .accepting true, .blocked =>
    some (h.modifyListener l (·.setAccept i (.accepting false)), [.answered l i .pending])
  | .accepting true, .accepted localAddress peerAddress =>
    let connection : Connection :=
      { config := listener.config, timer := h.timer, localAddress, peerAddress }
    let c := h.connections.length
    some ({ h with connections := h.connections ++ [connection] }.modifyListener l
      (·.setAccept i (.tracking c)), [.accepted l c])
  | .accepting true, .unusable peerAddress e =>
    let error := ConnectionError.ofIo Operation.configure.name e
    let record := LogRecord.warn "tcp accepted connection dropped" (some error.message)
      [("peer", peerAddress)]
    let (h, effects) := h.seekPeer l i listener a
    some (h, .recorded l record :: effects)
  | .accepting true, .failed e =>
    if listener.coordinator.token then some (h.endAccept l i [] .ended)
    else
      let error := ConnectionError.ofIo Operation.accept.name e
      some (h.endAccept l i [.warn "tcp accept failed" (some error.message) []] (.failed error))
  | _, _ => none

/-- The tracked connections after `c` was added. Those that somebody disposes of are left out
    from now on. -/
def trackWith (h : Host) (listener : Listener) (c : Nat) : List Nat :=
  listener.tracked.filter (fun c => !h.isDisposed c) ++ [c]

/-- Accept stream `i` of listener `l` has its connection tracked, or disposes of it. -/
def track (h : Host) (l i : Nat) (listener : Listener) (a : Accept) : Option Stepped :=
  match a.state with
  | .tracking c =>
    if listener.coordinator.token then
      some ((h.modifyConnection c Connection.dispose).modifyListener l
        (·.setAccept i (.refusing c)), [.refused l c, .answered l i .pending])
    else
      let peer := ((h.connections[c]?).map (·.peerAddress)).getD ""
      let tracked := h.trackWith listener c
      some (h.modifyListener l fun l => { l.setAccept i .idle with tracked },
        [.registered l c, .recorded l (.debug "tcp connection accepted" [("peer", peer)]),
          .answered l i (.next c)])
  | _ => none

/-- Drops accept stream `i` of listener `l`. -/
def dropAccept (h : Host) (l i : Nat) (a : Accept) : Option Stepped :=
  match a.state with
  | .idle | .accepting false | .refusing _ | .exhausted =>
    some (h.modifyListener l (·.setAccept i .dropped), [])
  | .accepting true | .tracking _ | .dropped => none

end Duplex.Host

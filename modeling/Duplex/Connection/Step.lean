import Duplex.Connection.Receive
import Duplex.Connection.Send
import Duplex.Connection.Teardown

/-! # Steps of a connection

  The connection as a labelled transition system. A label is one move of one future or of
  the caller, with the socket's answer where the move asks the socket for one. A run is any
  sequence of labels, so futures may be polled in any order, left alone for ever, or dropped.
-/

namespace Duplex.Connection

/-- What can happen to a connection. -/
inductive Label where
  /-- A send is created; its caller may have cancelled already. -/
  | send (bytes : Bytes) (cancelled : Bool)
  /-- A send is polled. -/
  | pollSend (i : Nat)
  /-- A send gets the answer to its write. -/
  | write (i : Nat) (answer : WriteAnswer)
  /-- A send is dropped. -/
  | dropSend (i : Nat)
  /-- The caller's token of a send fires. -/
  | cancelSend (i : Nat)
  /-- A receive stream is created; its caller may have cancelled already. -/
  | receive (cancelled : Bool)
  /-- A receive stream is polled. -/
  | pollReceive (i : Nat)
  /-- A receive stream gets the answer to its read. -/
  | read (i : Nat) (answer : ReadAnswer)
  /-- A receive stream is dropped. -/
  | dropReceive (i : Nat)
  /-- The caller's token of a receive stream fires. -/
  | cancelReceive (i : Nat)
  /-- Disposal is asked for. -/
  | dispose
  /-- The teardown goes on by itself. -/
  | teardown (now : Nat)
  /-- The teardown gets the answer to closing its direction. -/
  | halfClose (answer : Except IoError Unit) (now : Nat)
  /-- The teardown gets the answer to a read. -/
  | drain (answer : ReadAnswer)
  /-- The teardown runs out of time. -/
  | expire (now : Nat)
  /-- The teardown gets the answer to closing both directions. -/
  | force (answer : Except IoError Unit)
  /-- The teardown is cut short. -/
  | abort

/-- The connection after a step and the effects of the step, where it is possible. -/
def step? (c : Connection) : Label → Option Stepped
  | .send bytes cancelled => some ({ c with sends := c.sends ++ [{ bytes, cancelled }] }, [])
  | .pollSend i => (c.sends[i]?).bind (c.pollSend i)
  | .write i answer => (c.sends[i]?).bind (c.write i · answer)
  | .dropSend i => (c.sends[i]?).bind (c.dropSend i)
  | .cancelSend i =>
    some ({ c with sends := c.sends.modify i fun s => { s with cancelled := true } }, [])
  | .receive cancelled => some ({ c with receives := c.receives ++ [{ cancelled }] }, [])
  | .pollReceive i => (c.receives[i]?).bind (c.pollReceive i)
  | .read i answer => (c.receives[i]?).bind (c.read i · answer)
  | .dropReceive i => (c.receives[i]?).bind (c.dropReceive i)
  | .cancelReceive i =>
    some ({ c with receives := c.receives.modify i fun r => { r with cancelled := true } }, [])
  | .dispose => some (c.dispose, [])
  | .teardown now => c.runTeardown now
  | .halfClose answer now => c.halfClose answer now
  | .drain answer => c.drain answer
  | .expire now => c.expire now
  | .force answer => c.force answer
  | .abort => c.abort

/-- The connection after a sequence of steps and all their effects, where they are possible. -/
def run? (c : Connection) : List Label → Option Stepped
  | [] => some (c, [])
  | l :: rest => do
    let (c, effects) ← c.step? l
    let (c, more) ← c.run? rest
    return (c, effects ++ more)

end Duplex.Connection

import Duplex.Host.Basic

/-! # Tearing down a listener

  The teardown gives up the listening socket, takes the tracked connections, disposes of each
  of them, and waits until all of them are disposed of, whoever has asked for it. It is
  graceful unless the teardown of one of them was cut short.
-/

namespace Duplex.Host

/-- The outcome of a listener whose connections came to these outcomes. -/
def cascadeOutcome (outcomes : List DisposeOutcome) : DisposeOutcome :=
  if .aborted ∈ outcomes then .forced else .graceful

/-- The teardown of listener `l` goes on by itself. -/
def runCascade (h : Host) (l : Nat) (listener : Listener) : Option Stepped :=
  match listener.teardown with
  | .requested =>
    some (h.modifyListener l ({ · with listening := false, teardown := .deaf }), [])
  | .deaf =>
    let taken := listener.tracked
    some (h.modifyListener l ({ · with tracked := [], teardown := .cascading taken taken }),
      [.recorded l (.info "tcp listener cascading disposal"
        [("connections", toString taken.length)])])
  | .cascading (c :: rest) taken =>
    some ((h.modifyConnection c Connection.dispose).modifyListener l
      ({ · with teardown := .cascading rest taken }), [])
  | .cascading [] taken =>
    match taken.mapM h.outcome with
    | none => none
    | some outcomes =>
      some (h.modifyListener l ({ · with teardown := .closing (cascadeOutcome outcomes) }), [])
  | .closing outcome =>
    some (h.modifyListener l fun l =>
      { l with coordinator := l.coordinator.publish outcome, teardown := .finished }, [])
  | .absent | .finished => none

/-- The task of the teardown of listener `l` is cut short. -/
def abortCascade (h : Host) (l : Nat) (listener : Listener) : Option Stepped :=
  match listener.teardown with
  | .absent | .closing _ | .finished => none
  | .requested | .deaf | .cascading .. =>
    some (h.modifyListener l ({ · with teardown := .closing .aborted }), [])

end Duplex.Host
